import Refal.Disk.Stream

/-!
# Lines on the disk

What the disk does to the lines a program writes and reads back. Text reaches a file as its UTF-8
bytes, and a line feed byte never stands inside the encoding of another character, so the lines of
a text are found again by looking for line feeds (`toUTF8_linesText_cons`). A reader fetches a file
in chunks, but what it gives is decided by the bytes it has not given yet alone: the next line
through the first line feed of those (`readLine_remaining`). A file written at its end grows by
what is written, and only its own entry changes; the directories that led to it stay, so the path
that opened it for writing opens it again for reading (`openForReading_after`).
-/

namespace Refal.Disk

/-! ## Text as bytes -/

/-- The loop that lists a byte array gives its bytes from the index on, after the reversed
accumulator. -/
theorem toList_loop (bs : ByteArray) (i : Nat) (r : List UInt8) :
    ByteArray.toList.loop bs i r = r.reverse ++ bs.data.toList.drop i := by
  fun_induction ByteArray.toList.loop bs i r with
  | case1 i r below ih =>
    have inside : i < bs.data.toList.length := by simpa using below
    have split : bs.data.toList.drop i = bs.get! i :: bs.data.toList.drop (i + 1) := by
      rw [List.drop_eq_getElem_cons inside]
      obtain ⟨data⟩ := bs
      simp [ByteArray.get!, getElem!_pos data i (by simpa using inside)]
    rw [ih, split]
    simp
  | case2 i r above =>
    have : bs.data.toList.length ≤ i := by simpa using above
    simp [List.drop_eq_nil_of_le this]

/-- The bytes of a text are the encodings of its characters, one after the other. -/
theorem toList_toUTF8 (s : String) :
    s.toUTF8.toList = s.toList.flatMap String.utf8EncodeChar := by
  have encoded : s.toByteArray = s.toList.utf8Encode := by
    conv => lhs; rw [← @String.ofList_toList s]
    exact String.toByteArray_ofList
  rw [ByteArray.toList, toList_loop, String.toUTF8_eq_toByteArray, encoded]
  simp [List.utf8Encode]

theorem toUTF8_append (s t : String) :
    (s ++ t).toUTF8.toList = s.toUTF8.toList ++ t.toUTF8.toList := by
  rw [toList_toUTF8, toList_toUTF8, toList_toUTF8, String.toList_append, List.flatMap_append]

theorem toUTF8_lineFeed : "\n".toUTF8.toList = [lineFeed] := by
  rw [toList_toUTF8]
  decide

/-- The line feed byte is the encoding of the line feed and of no other character, nor part of
one. -/
theorem lineFeed_not_mem_utf8EncodeChar {c : Char} (other : c ≠ '\n') :
    lineFeed ∉ String.utf8EncodeChar c := by
  intro mem
  have small : c.val.toNat = 10 → c = '\n' := by
    intro ten
    apply Char.ext
    apply UInt32.toNat_inj.mp
    simpa using ten
  simp only [String.utf8EncodeChar, lineFeed] at mem
  -- a character of one byte is that byte; every byte of a longer one is at least 128
  split at mem
  · rw [List.mem_singleton] at mem
    have byte := congrArg UInt8.toNat mem
    simp [UInt8.toNat_ofNat] at byte
    have same : c.toNat = c.val.toNat := rfl
    exact other (small (by omega))
  all_goals
    repeat' split at mem
    all_goals
      simp only [List.mem_cons, List.not_mem_nil, or_false] at mem
      repeat' rcases mem with mem | mem
      all_goals
        have byte := congrArg UInt8.toNat mem
        simp [UInt8.toNat_ofNat] at byte
        omega

theorem lineFeed_not_mem_toUTF8 {s : String} (single : '\n' ∉ s.toList) :
    lineFeed ∉ s.toUTF8.toList := by
  rw [toList_toUTF8, List.mem_flatMap]
  rintro ⟨c, mem, encoded⟩
  exact lineFeed_not_mem_utf8EncodeChar (fun feed => single (feed ▸ mem)) encoded

theorem fromUTF8?_toUTF8 (s : String) :
    String.fromUTF8? ⟨s.toUTF8.toList.toArray⟩ = some s := by
  have bytes : (⟨s.toUTF8.toList.toArray⟩ : ByteArray) = s.toByteArray := by
    rw [ByteArray.toList, toList_loop]
    simp
  rw [bytes, String.fromUTF8?, dif_pos s.isValidUTF8]
  rfl

def linesText (ls : List String) : String := String.join (ls.map (· ++ "\n"))

theorem linesText_append (ls ls' : List String) :
    linesText (ls ++ ls') = linesText ls ++ linesText ls' := by
  simp [linesText, String.join_append]

theorem toUTF8_linesText_nil : (linesText []).toUTF8.toList = [] := by
  simp [linesText]

theorem toUTF8_linesText_cons (l : String) (ls : List String) :
    (linesText (l :: ls)).toUTF8.toList = l.toUTF8.toList ++ lineFeed :: (linesText ls).toUTF8.toList := by
  rw [linesText, List.map_cons, String.join_cons, toUTF8_append, toUTF8_append, toUTF8_lineFeed,
    List.append_assoc, List.singleton_append]
  rfl

/-! ## Changing one entry -/

theorem lookup_replace (es : List (Location × Entry)) (loc l : Location) (e : Entry) :
    (es.map fun p => if p.1 = loc then (loc, e) else p).lookup l =
      if l = loc ∧ es.any (·.1 = loc) then some e else es.lookup l := by
  induction es with
  | nil => simp
  | cons p es ih =>
    obtain ⟨k, v⟩ := p
    by_cases hl : l = k
    · subst hl
      by_cases hk : l = loc
      · subst hk; simp
      · simp [hk]
    · have skip : (l == k) = false := by simpa using hl
      by_cases hk : k = loc
      · subst hk; simp [List.lookup_cons, skip, hl, ih]
      · rw [List.map_cons, if_neg hk, List.lookup_cons, skip]
        dsimp only
        simp only [ih, List.any_cons, List.lookup_cons, skip, decide_eq_false hk, Bool.false_or]

theorem lookup_set (d : Disk) (loc l : Location) (e : Entry) :
    (d.set loc e).entries.lookup l = if l = loc then some e else d.entries.lookup l := by
  unfold set
  split
  · rename_i present
    simp [lookup_replace, present]
  · rename_i absent
    rw [List.lookup_append]
    by_cases hl : l = loc
    · subst hl
      have none : d.entries.lookup l = none := by
        rw [List.lookup_eq_none_iff]
        intro p mem
        have differs : p.1 ≠ l := fun same => absent (List.any_eq_true.mpr ⟨p, mem, by simp [same]⟩)
        simpa using Ne.symm differs
      simp [none]
    · have skip : (l == loc) = false := by simpa using hl
      simp [List.lookup_cons, skip, hl]

/-- Setting a place changes what it holds and nothing else; the places without names stay the
directories they always are. -/
theorem entry?_set (d : Disk) (loc l : Location) (e : Entry) :
    entry? (d.set loc e) l =
      if l.names = [] then some .directory else if l = loc then some e else d.entry? l := by
  unfold entry?
  rw [lookup_set]
  by_cases named : l.names = [] <;> simp [named]

theorem entry?_set_self {d : Disk} {loc : Location} (named : loc.names ≠ []) (e : Entry) :
    entry? (d.set loc e) loc = some e := by
  simp [entry?_set, named]

@[simp]
theorem readable_set (d : Disk) (loc : Location) (e : Entry) :
    (d.set loc e).readable = d.readable := by
  unfold set
  split <;> rfl

@[simp]
theorem set_set (d : Disk) (loc : Location) (e e' : Entry) :
    (d.set loc e).set loc e' = d.set loc e' := by
  unfold set
  by_cases present : d.entries.any (·.1 = loc)
  · -- both replace the entry in place
    have still : (d.entries.map fun p => if p.1 = loc then (loc, e) else p).any (·.1 = loc) := by
      simp only [List.any_map, List.any_eq_true] at present ⊢
      obtain ⟨p, mem, at_loc⟩ := present
      refine ⟨p, mem, ?_⟩
      simp only [decide_eq_true_eq] at at_loc ⊢
      simp [at_loc]
    simp only [present, still, if_true, List.map_map]
    congr 2
    funext p
    by_cases k : p.1 = loc <;> simp [k]
  · -- the first adds the entry at the end, the second replaces it there
    have keep : d.entries.map (fun p => if p.1 = loc then (loc, e') else p) = d.entries := by
      conv => rhs; rw [← List.map_id d.entries]
      apply List.map_congr_left
      intro p mem
      have elsewhere : p.1 ≠ loc :=
        fun same => present (List.any_eq_true.mpr ⟨p, mem, by simp [same]⟩)
      simp [elsewhere]
    simp [present, keep]

/-! ## Paths that stay open -/

/-- The disk `d'` keeps every directory and every readable place of `d`: a path walked on `d`
walks the same way on `d'`. -/
structure KeepsTree (d d' : Disk) : Prop where
  directories : ∀ l, d.entry? l = some .directory → d'.entry? l = some .directory
  readable : ∀ l, d.readable l = true → d'.readable l = true

theorem keepsTree_set {d : Disk} {loc : Location} (was : d.entry? loc ≠ some .directory)
    (e : Entry) : KeepsTree d (d.set loc e) where
  directories l directory := by
    rw [entry?_set]
    by_cases named : l.names = []
    · rw [if_pos named]
    · by_cases same : l = loc
      · subst same
        exact absurd directory was
      · rw [if_neg named, if_neg same]
        exact directory
  readable l readable := by rw [readable_set]; exact readable

theorem KeepsTree.walk {d d' : Disk} (keeps : KeepsTree d d') {here dir : Location}
    {names : List String} (walked : d.walk here names = .ok dir) : d'.walk here names = .ok dir := by
  fun_induction Disk.walk d here names with
  | case1 here => rw [Disk.walk.eq_1]; exact walked
  | case2 here rest ih => rw [Disk.walk.eq_2]; exact ih walked
  | case3 here rest ih => rw [Disk.walk.eq_3]; exact ih walked
  | case6 here n rest notDot notUp short next directory readable ih =>
    -- the only way on: a readable directory, which the other disk keeps
    rw [Disk.walk.eq_4 d' here n rest notDot notUp, if_neg short]
    dsimp only
    rw [keeps.directories _ directory, if_pos (keeps.readable _ readable)]
    exact ih walked
  | _ => cases walked

theorem KeepsTree.locate {d d' : Disk} (keeps : KeepsTree d d') {p : Path}
    {r : Location ⊕ (Location × String)} (located : d.locate p = .ok r) : d'.locate p = .ok r := by
  unfold Disk.locate at located ⊢
  cases last : p.names.getLast? with
  | none => simpa [last] using located
  | some name =>
    simp only [last] at located ⊢
    cases walked : d.walk (if p.absolute = true then ⟨.root, []⟩ else .here) p.names.dropLast with
    | error f => simp [walked, bind, Except.bind] at located
    | ok dir =>
      rw [keeps.walk walked]
      simpa [walked] using located

/-- What opening for writing found: the path leads to a name in a directory, the place there is no
directory, and a place that is no device is left holding a file, emptied if asked. -/
theorem openForWriting_ok {d opened : Disk} {s : String} {truncate : Bool} {loc : Location}
    (opens : d.openForWriting s truncate = .ok (loc, opened)) :
    ∃ p dir name, checkPath s = .ok p ∧ d.locate p = .ok (.inr (dir, name)) ∧
      p.trailingSlash = false ∧ ¬ nameMax < name.utf8ByteSize ∧ loc = dir.child name ∧
      d.entry? loc ≠ some .directory ∧
      ((∀ k, d.entry? loc ≠ some (.device k)) →
        opened = d.set loc (.file (if truncate then [] else d.bytes loc))) := by
  unfold openForWriting at opens
  cases checked : checkPath s with
  | error f => simp [checked, bind, Except.bind] at opens
  | ok p =>
    simp only [checked, bind, Except.bind] at opens
    cases located : d.locate p with
    | error f => simp [located] at opens
    | ok r =>
      rcases r with dirLoc | ⟨dir, name⟩
      · simp [located, throw, throwThe, MonadExceptOf.throw] at opens
      · simp only [located] at opens
        have slash : p.trailingSlash = false := by
          cases h : p.trailingSlash
          · rfl
          · simp [h, throw, throwThe, MonadExceptOf.throw] at opens
        have short : ¬ nameMax < name.utf8ByteSize := by
          intro long
          simp [slash, long, throw, throwThe, MonadExceptOf.throw] at opens
        simp only [slash, short, if_false, Bool.false_eq_true] at opens
        refine ⟨p, dir, name, rfl, located, slash, short, ?_⟩
        split at opens
        · cases opens
        · rename_i e notDirectory entry
          have kept : d.entry? (dir.child name) ≠ some .directory :=
            entry ▸ fun same => notDirectory (Option.some.inj same)
          split at opens
          · cases opens
          split at opens
          · -- a file is kept or emptied
            rename_i bs _ _
            cases opens
            refine ⟨rfl, kept, fun _ => ?_⟩
            cases truncate <;> simp [bytes, entry]
          · -- a device is opened as it is
            rename_i notFile
            cases opens
            refine ⟨rfl, kept, fun notDevice => ?_⟩
            cases e with
            | file bs => exact absurd rfl (notFile bs)
            | directory => exact absurd rfl notDirectory
            | device k => exact absurd entry (notDevice k)
        · -- a missing file is made empty
          rename_i entry
          split at opens
          · cases opens
          · cases opens
            refine ⟨rfl, by simp [entry], fun _ => ?_⟩
            cases truncate <;> simp [bytes, entry]

/-- A path that opened a place for writing opens it for reading on every disk that keeps the
tree, once the place holds a file that may be read. -/
theorem openForReading_after {d d' opened : Disk} {s : String} {truncate : Bool} {loc : Location}
    {bs : Bytes} (opens : d.openForWriting s truncate = .ok (loc, opened)) (keeps : KeepsTree d d')
    (file : d'.entry? loc = some (.file bs)) (readable : d'.readable loc = true) :
    d'.openForReading s = .ok loc := by
  obtain ⟨p, dir, name, checked, located, slash, short, rfl, -, -⟩ := openForWriting_ok opens
  simp [openForReading, checked, keeps.locate located, bind, Except.bind, short, file, slash,
    readable, pure, Except.pure]

/-! ## Reading and writing lines -/

/-- The bytes a reader has yet to give: those fetched and not consumed, then the file past what
was fetched. -/
def ReadState.remaining (st : ReadState) (file : Bytes) : Bytes := st.pending ++ file.drop st.offset

/-- Bytes split after their first line feed: the line with its line feed, and what follows; all
of them, and nothing, when they hold no line feed. -/
def splitLine (bs : Bytes) : Bytes × Bytes :=
  match bs.findIdx? (· = lineFeed) with
  | some i => (bs.take (i + 1), bs.drop (i + 1))
  | none => (bs, [])

/-- Reading a line takes the bytes not given yet through their first line feed, however they
were fetched. -/
theorem readLine_remaining (st : ReadState) (file : Bytes) :
    ((st.readLine file).1, (st.readLine file).2.remaining file) = splitLine (st.remaining file) := by
  obtain ⟨offset, pending⟩ := st
  simp only [ReadState.readLine, ReadState.remaining, splitLine, List.findIdx?_append]
  cases inPending : pending.findIdx? (· = lineFeed) with
  | some i =>
    have below : i < pending.length := (List.findIdx?_eq_some_iff_findIdx_eq.mp inPending).1
    simp [List.take_append_of_le_length below, List.drop_append_of_le_length below]
  | none =>
    simp only [Option.none_or]
    cases inRest : (file.drop offset).findIdx? (· = lineFeed) with
    | some i =>
      -- the chunks fetched reach past the line feed: what stays fetched is the rest of the line's
      -- last chunk, and the file goes on after it
      have below : i < (file.drop offset).length :=
        (List.findIdx?_eq_some_iff_findIdx_eq.mp inRest).1
      simp only [Option.map_some]
      generalize fetchedDef : min ((i / chunkSize + 1) * chunkSize) (file.drop offset).length = fetched
      have enough : i + 1 ≤ fetched := by
        rw [← fetchedDef]; unfold chunkSize; omega
      have tail : file.drop (offset + fetched) = (file.drop offset).drop fetched := by
        rw [List.drop_drop]
      rw [tail]
      generalize file.drop offset = rest at below fetchedDef ⊢
      have line : (pending ++ rest).take (i + pending.length + 1) = pending ++ rest.take (i + 1) := by
        rw [show i + pending.length + 1 = pending.length + (i + 1) by omega,
          List.take_length_add_append]
      have after : (pending ++ rest).drop (i + pending.length + 1) = rest.drop (i + 1) := by
        rw [show i + pending.length + 1 = pending.length + (i + 1) by omega,
          List.drop_length_add_append]
      have later : rest.drop fetched = (rest.drop (i + 1)).drop (fetched - (i + 1)) := by
        rw [List.drop_drop]
        congr 1
        omega
      rw [line, after, List.drop_take, later, List.take_append_drop]
    | none =>
      have ended : file.drop (offset + (file.drop offset).length) = [] := by
        apply List.drop_eq_nil_of_le
        rw [List.length_drop]
        omega
      simp only [Option.map_none]
      rw [ended, List.append_nil]

theorem splitLine_nil : splitLine [] = ([], []) := rfl

theorem splitLine_line {line : Bytes} (single : lineFeed ∉ line) (rest : Bytes) :
    splitLine (line ++ lineFeed :: rest) = (line ++ [lineFeed], rest) := by
  have first : (line ++ lineFeed :: rest).findIdx? (· = lineFeed) = some line.length := by
    have none : line.findIdx? (· = lineFeed) = none := by
      rw [List.findIdx?_eq_none_iff]
      intro b mem
      have differs : b ≠ lineFeed := fun same => single (same ▸ mem)
      simpa using differs
    simp [List.findIdx?_append, List.findIdx?_cons, none]
  simp only [splitLine, first, List.take_length_add_append, List.drop_length_add_append]
  rfl

theorem bytes_of_file {d : Disk} {loc : Location} {bs : Bytes} (file : d.entry? loc = some (.file bs)) :
    d.bytes loc = bs := by
  simp [bytes, file]

theorem refusal_of_file {d : Disk} {loc : Location} {bs : Bytes}
    (file : d.entry? loc = some (.file bs)) : d.refusal loc = none := by
  simp [refusal, file]

theorem isDirectory_of_file {d : Disk} {loc : Location} {bs : Bytes}
    (file : d.entry? loc = some (.file bs)) : d.isDirectory loc = false := by
  simp [isDirectory, file]

theorem write_at_end {d : Disk} {loc : Location} {bs data : Bytes}
    (file : d.entry? loc = some (.file bs)) (some_data : data ≠ []) :
    d.write loc bs.length data = d.set loc (.file (bs ++ data)) := by
  have past : (bs.drop (bs.length + data.length)) = [] := List.drop_eq_nil_of_le (by omega)
  simp [write, file, some_data, bytes_of_file file, writeAt, past]

theorem append_of_file {d : Disk} {loc : Location} {bs : Bytes} (file : d.entry? loc = some (.file bs))
    (data : Bytes) : d.append loc data = d.set loc (.file (bs ++ data)) := by
  simp [append, file, bytes_of_file file]

/-- A file that holds the bytes of a text, found by a path that opens it, reads as that text. -/
theorem readText_of_file {d : Disk} {path : String} {loc : Location} {s : String}
    (reads : d.openForReading path = .ok loc) (file : d.entry? loc = some (.file s.toUTF8.toList)) :
    d.readText path = .ok s := by
  simp only [readText, reads, bind, Except.bind, isDirectory_of_file file, bytes_of_file file,
    Bool.false_eq_true, if_false, fromUTF8?_toUTF8, pure, Except.pure]

end Refal.Disk
