import Refal.Proofs.Disk
import Refal.Proofs.Effects

/-!
# Lines through a file

A program opens a file for writing or appending under a handle and puts expressions into it, one
line each; then it opens the file again for reading and gets its lines back. Each `Put` returns
what it wrote and writes nothing to the output; the file then holds its earlier lines and after
them the rendering of each expression put, and `Get` gives these back in order, each as its
characters, then `0` at every call after the last. Two invariants carry this: `Writing` (the file
ends where its writer stands, and its line buffer holds nothing, so every line has reached the
disk) and `Reading` (the lines still to come are the bytes the reader has not given yet).
-/

namespace Refal.Library

open Disk

/-- What `Get` gives for a line of a file, read without its line feed: its characters, without a
carriage return that ends it. -/
def lineValue (l : String) : Expr :=
  (if l.toList.getLast? = some '\r' then l.toList.dropLast else l.toList).map .char

theorem stripLineEnd_line (l : String) : (stripLineEnd (l ++ "\n")).map .char = lineValue l := by
  have reversed : (l ++ "\n").toList.reverse = '\n' :: l.toList.reverse := by
    simp [String.toList_append]
  unfold stripLineEnd lineValue
  rw [reversed]
  -- split the line at its last character, if any
  obtain ⟨rs, same⟩ : ∃ rs, l.toList = rs.reverse := ⟨l.toList.reverse, by simp⟩
  rw [same, List.reverse_reverse]
  cases rs with
  | nil => rfl
  | cons c rest =>
    by_cases ret : c = '\r'
    · subst ret
      simp
    · simp [ret]

theorem lineValue_of_no_return {l : String} (last : l.toList.getLast? ≠ some '\r') :
    lineValue l = Expr.ofChars l := by
  simp [lineValue, last, Expr.ofChars]

/-! ## Putting lines -/

/-- The file at `loc` is open under `handle` for writing at its end or for appending, with its
line buffer empty; the disk is `base` with the file holding `bs`. -/
structure Writing (lib : Library) (base : Disk) (handle : String) (loc : Location) (bs : Bytes) :
    Prop where
  named : loc.names ≠ []
  disk : lib.disk = base.set loc (.file bs)
  channel : lib.files.find? handle = some (.writer loc bs.length []) ∨
    lib.files.find? handle = some (.appender loc [])

theorem Writing.file {lib : Library} {base : Disk} {handle : String} {loc : Location} {bs : Bytes}
    (w : Writing lib base handle loc bs) : lib.disk.entry? loc = some (.file bs) := by
  rw [w.disk]
  exact entry?_set_self w.named _

/-- A `Put` on a file being written returns the expression after the handle, writes nothing to the
output, and adds its rendering and a line feed to the file. -/
theorem Writing.put {lib : Library} {base : Disk} {handle : String} {loc : Location} {bs : Bytes}
    (w : Writing lib base handle loc bs) {e : Expr} (named : handleOf e = some handle) :
    (lib.put e).result = .ok (.value e.tail) ∧ (lib.put e).output = "" ∧
      Writing (lib.put e).library base handle loc
        (bs ++ ((Expr.renderFrom e 1).toUTF8.toList ++ [lineFeed])) := by
  have file := w.file
  have line := LineBuffer.writeLine_of_accepting [] (Expr.renderFrom e 1).toUTF8.toList
  rcases w.channel with found | found
  · -- a writer at the end of the file writes there and moves on past the line
    simp only [Library.put, named, found, refusal_of_file file, line, List.nil_append]
    refine ⟨rfl, rfl, w.named, ?_, .inl ?_⟩
    · show lib.disk.write loc bs.length _ = _
      rw [write_at_end file (by simp), w.disk, set_set]
    · show (lib.files.update handle _).find? handle = _
      rw [FileTable.find?_update_self found]
      simp
  · -- an appender adds the line at the end
    simp only [Library.put, named, found, refusal_of_file file, line, List.nil_append]
    refine ⟨rfl, rfl, w.named, ?_, .inr ?_⟩
    · show lib.disk.append loc _ = _
      rw [append_of_file file, w.disk, set_set]
    · exact FileTable.find?_update_self found _

/-- Putting expressions one after the other under the handle of a file being written: each `Put`
returns its expression and writes nothing to the output, and the file grows by their lines. -/
theorem Writing.puts {lib : Library} {base : Disk} {h : Term} {loc : Location} {bs : Bytes}
    (handle : h.isBracket = false) (w : Writing lib base h.text loc bs) (ps : List Expr) :
    (∀ i (hi : i < ps.length),
      let before := lib.afterCalls ((ps.take i).map fun p => ("Put", h :: p))
      (before.call "Put" (h :: ps[i])).result = .ok (.value ps[i]) ∧
        (before.call "Put" (h :: ps[i])).output = "") ∧
    Writing (lib.afterCalls (ps.map fun p => ("Put", h :: p))) base h.text loc
      (bs ++ (linesText (ps.map Expr.render)).toUTF8.toList) := by
  induction ps generalizing lib bs with
  | nil =>
    refine ⟨fun i hi => absurd hi (Nat.not_lt_zero _), ?_⟩
    simpa only [List.map_nil, afterCalls_nil, toUTF8_linesText_nil, List.append_nil] using w
  | cons p ps ih =>
    have call : ∀ lib : Library, lib.call "Put" (h :: p) = lib.put (h :: p) :=
      fun lib => @call_eq_apply lib "Put" .put rfl (h :: p)
    have named : handleOf (h :: p) = some h.text := by simp [handleOf, handle]
    obtain ⟨result, output, next⟩ := w.put named
    -- the line written is the rendering of the expression after the handle
    have next : Writing (lib.put (h :: p)).library base h.text loc
        (bs ++ ((Expr.render p).toUTF8.toList ++ [lineFeed])) := next
    obtain ⟨each, last⟩ := ih next
    refine ⟨fun i hi => ?_, ?_⟩
    · cases i with
      | zero => simpa [call] using ⟨result, output⟩
      | succ i => simpa [call] using each i (by simpa using hi)
    · have bytes : bs ++ ((Expr.render p).toUTF8.toList ++ [lineFeed]) ++
          (linesText (ps.map Expr.render)).toUTF8.toList =
          bs ++ (linesText ((p :: ps).map Expr.render)).toUTF8.toList := by
        rw [List.map_cons, toUTF8_linesText_cons]
        simp only [List.append_assoc, List.singleton_append]
      rw [List.map_cons, afterCalls_cons, ← bytes]
      simpa [call] using last

/-! ## Getting lines -/

/-- The file at `loc` is open for reading under `handle`, and `left` are the bytes its reader has
not given yet. -/
structure Reading (lib : Library) (handle : String) (loc : Location) (left : Bytes) : Prop where
  notDirectory : lib.disk.isDirectory loc = false
  reader : ∃ st, lib.files.find? handle = some (.reader loc st) ∧
    st.remaining (lib.disk.bytes loc) = left

/-- A reader gives what is left through its first line feed, and the bytes after it are left. -/
theorem Reading.next {lib : Library} {handle : String} {loc : Location} {left : Bytes}
    (r : Reading lib handle loc left) :
    ∃ st st', lib.files.find? handle = some (.reader loc st) ∧
      st.readLine (lib.disk.bytes loc) = ((splitLine left).1, st') ∧
      Reading { lib with files := lib.files.update handle (.reader loc st') } handle loc
        (splitLine left).2 := by
  obtain ⟨st, found, remaining⟩ := r.reader
  have read := readLine_remaining st (lib.disk.bytes loc)
  rw [remaining] at read
  refine ⟨st, (st.readLine (lib.disk.bytes loc)).2, found, ?_, r.notDirectory, _,
    FileTable.find?_update_self found _, congrArg Prod.snd read⟩
  rw [← congrArg Prod.fst read]

theorem Reading.get_line {lib : Library} {handle : String} {loc : Location} {l : String}
    {ls : List String} (r : Reading lib handle loc (linesText (l :: ls)).toUTF8.toList)
    (single : '\n' ∉ l.toList) {e : Expr} (named : handleOf e = some handle) :
    (lib.get e).result = .ok (.value (lineValue l)) ∧ (lib.get e).output = "" ∧
      Reading (lib.get e).library handle loc (linesText ls).toUTF8.toList := by
  obtain ⟨st, st', found, got, next⟩ := r.next
  rw [toUTF8_linesText_cons, splitLine_line (lineFeed_not_mem_toUTF8 single)] at got next
  -- the line read is the text of the line and its line feed, which decodes
  have text : l.toUTF8.toList ++ [lineFeed] = (l ++ "\n").toUTF8.toList := by
    rw [toUTF8_append, toUTF8_lineFeed]
  simp only [Library.get, named, found, r.notDirectory, got, Bool.false_eq_true, if_false,
    List.append_eq_nil_iff, List.cons_ne_nil, and_false]
  rw [text, fromUTF8?_toUTF8]
  exact ⟨by simp [give, stripLineEnd_line], rfl, next⟩

/-- At the end of the file `Get` gives `0`, and the reader stays at the end. -/
theorem Reading.get_end {lib : Library} {handle : String} {loc : Location}
    (r : Reading lib handle loc []) {e : Expr} (named : handleOf e = some handle) :
    (lib.get e).result = .ok (.value [.small 0]) ∧ (lib.get e).output = "" ∧
      Reading (lib.get e).library handle loc [] := by
  obtain ⟨st, st', found, got, next⟩ := r.next
  rw [splitLine_nil] at got next
  simp only [Library.get, named, found, r.notDirectory, got, Bool.false_eq_true, if_false, if_true]
  exact ⟨rfl, rfl, next⟩

theorem Reading.get {lib : Library} {handle : String} {loc : Location} {ls : List String}
    (r : Reading lib handle loc (linesText ls).toUTF8.toList) (single : ∀ l ∈ ls, '\n' ∉ l.toList)
    {e : Expr} (named : handleOf e = some handle) :
    (lib.get e).result = .ok (.value ((ls.map lineValue).headD [.small 0])) ∧
      (lib.get e).output = "" ∧ Reading (lib.get e).library handle loc (linesText ls.tail).toUTF8.toList := by
  cases ls with
  | nil =>
    rw [toUTF8_linesText_nil] at r
    rw [List.tail_nil, toUTF8_linesText_nil]
    exact r.get_end named
  | cons l ls => exact r.get_line (single l (by simp)) named

/-- Getting line after line from a file being read: the `k`-th `Get` gives the `k`-th line that
was left, or `0` once there is none, and writes nothing to the output. -/
theorem Reading.gets {lib : Library} {h : Term} {loc : Location} {ls : List String}
    (handle : h.isBracket = false) (r : Reading lib h.text loc (linesText ls).toUTF8.toList)
    (single : ∀ l ∈ ls, '\n' ∉ l.toList) (k : Nat) :
    let before := lib.afterCalls (List.replicate k ("Get", [h]))
    (before.call "Get" [h]).result = .ok (.value ((ls.map lineValue).getD k [.small 0])) ∧
      (before.call "Get" [h]).output = "" := by
  have call : ∀ lib : Library, lib.call "Get" [h] = lib.get [h] :=
    fun lib => @call_eq_apply lib "Get" .get rfl [h]
  have named : handleOf [h] = some h.text := by simp [handleOf, handle]
  -- on the number of calls before, each taking the first line of those left
  induction k generalizing lib ls with
  | zero =>
    obtain ⟨result, output, -⟩ := r.get single named
    have first : (ls.map lineValue).getD 0 [.small 0] = (ls.map lineValue).headD [.small 0] := by
      cases ls <;> rfl
    simp only [List.replicate_zero, afterCalls_nil, call, first]
    exact ⟨result, output⟩
  | succ k ih =>
    obtain ⟨-, -, next⟩ := r.get single named
    have later : (ls.map lineValue).getD (k + 1) [.small 0] =
        (ls.tail.map lineValue).getD k [.small 0] := by
      cases ls <;> simp
    simp only [List.replicate_succ, afterCalls_cons, call, later]
    exact ih next fun l mem => single l (List.mem_of_mem_tail mem)

/-! ## Opening the file -/

theorem call_openFile {lib : Library} {m h : Term} {rest : Expr} {mode : Mode} {c : Channel}
    {d : Disk} (named : Mode.ofText m.text = .ok mode)
    (opened : Channel.openAt lib.disk mode (fileNameOf h rest) = .ok (c, d)) :
    lib.call "Open" (m :: h :: rest) =
      ⟨.ok .noResult, { lib with files := lib.files.register h.text c, disk := d }, ""⟩ := by
  rw [@call_eq_apply lib "Open" .openFile rfl]
  simp [apply, openFile, named, opened]

/-- Opening a file that is no device for writing or appending, under a handle, starts a `Writing`
of it: emptied for writing, as it was for appending. -/
theorem writing_after_open {lib : Library} {m h : Term} {rest : Expr} {mode : Mode}
    {loc : Location} {opened : Disk} {ls : List String}
    (writing : Mode.ofText m.text = .ok mode) (notRead : mode ≠ .read)
    (opens : lib.disk.openForWriting (fileNameOf h rest) (mode == .write) = .ok (loc, opened))
    (plain : ∀ k, lib.disk.entry? loc ≠ some (.device k))
    (initial : mode = .append → lib.disk.bytes loc = (linesText ls).toUTF8.toList)
    (emptied : mode = .write → ls = []) :
    (lib.call "Open" (m :: h :: rest)).result = .ok .noResult ∧
      (lib.call "Open" (m :: h :: rest)).output = "" ∧
      Writing (lib.call "Open" (m :: h :: rest)).library lib.disk h.text loc
        (linesText ls).toUTF8.toList := by
  obtain ⟨-, dir, name, -, -, -, -, atLoc, -, shape⟩ := openForWriting_ok opens
  have named : loc.names ≠ [] := by simp [atLoc, Location.child]
  -- the channel opened, and what the file holds once open
  obtain ⟨c, openAt, channel, contents⟩ : ∃ c, Channel.openAt lib.disk mode (fileNameOf h rest) =
      .ok (c, opened) ∧ (c = .writer loc (linesText ls).toUTF8.toList.length [] ∨
        c = .appender loc []) ∧ opened = lib.disk.set loc (.file (linesText ls).toUTF8.toList) := by
    cases mode with
    | read => exact absurd rfl notRead
    | write =>
      have none := emptied rfl
      subst none
      refine ⟨_, ?_, .inl rfl, ?_⟩
      · simp only [Channel.openAt]
        rw [show (Mode.write == Mode.write) = true from rfl] at opens
        rw [opens, toUTF8_linesText_nil]
        rfl
      · rw [shape plain, toUTF8_linesText_nil]
        rfl
    | append =>
      refine ⟨_, ?_, .inr rfl, ?_⟩
      · simp only [Channel.openAt]
        rw [show (Mode.append == Mode.write) = false from rfl] at opens
        rw [opens]
        rfl
      · rw [shape plain, ← initial rfl]
        rfl
  rw [call_openFile writing openAt]
  refine ⟨rfl, rfl, named, contents, ?_⟩
  show (lib.files.register h.text c).find? h.text = _ ∨ (lib.files.register h.text c).find? h.text = _
  rw [FileTable.find?_register, if_pos rfl]
  rcases channel with rfl | rfl
  · exact .inl rfl
  · exact .inr rfl

/-- Once written, the file opens for reading under any handle by the path that opened it for
writing, its reader at the start of all it holds. -/
theorem reading_after_open {lib : Library} {base opened : Disk} {handle : String} {loc : Location}
    {bs : Bytes} {path : String} {truncate : Bool} {r h' : Term} {rest' : Expr}
    (w : Writing lib base handle loc bs)
    (opens : base.openForWriting path truncate = .ok (loc, opened))
    (readable : base.readable loc = true) (reading : Mode.ofText r.text = .ok .read)
    (sameFile : fileNameOf h' rest' = path) :
    lib.disk.openForReading path = .ok loc ∧
      (lib.call "Open" (r :: h' :: rest')).result = .ok .noResult ∧
      (lib.call "Open" (r :: h' :: rest')).output = "" ∧
      Reading (lib.call "Open" (r :: h' :: rest')).library h'.text loc bs := by
  obtain ⟨-, -, -, -, -, -, -, -, notDirectory, -⟩ := openForWriting_ok opens
  have keeps : KeepsTree base lib.disk := by
    rw [w.disk]
    exact keepsTree_set notDirectory _
  have reads : lib.disk.openForReading path = .ok loc :=
    openForReading_after opens keeps w.file (by rw [w.disk, readable_set]; exact readable)
  have openAt : Channel.openAt lib.disk .read (fileNameOf h' rest') =
      .ok (.reader loc ⟨0, []⟩, lib.disk) := by
    simp [Channel.openAt, sameFile, reads, Except.map]
  rw [call_openFile reading openAt]
  refine ⟨reads, rfl, rfl, isDirectory_of_file w.file, ⟨0, []⟩, ?_, ?_⟩
  · show (lib.files.register h'.text _).find? h'.text = _
    rw [FileTable.find?_register, if_pos rfl]
  · simp [ReadState.remaining, bytes_of_file w.file]

/-! ## The round trip -/

/-- Lines put into a file come back from it. Open a file that is no device for writing (emptied)
or appending (holding the lines `ls`), and put the expressions `ps` into it under a handle: each
`Put` returns its expression and writes nothing to the output, and the file then holds the lines
of `ls` and the renderings of `ps`. Open it again for reading under any handle: `Get` gives back
the lines of `ls` without their line ends, then the characters of each rendering, then `0` at
every later call. -/
theorem lines_round_trip (lib : Library) (m h r h' : Term) (rest rest' : Expr) (mode : Mode)
    (loc : Location) (opened : Disk) (ls : List String) (ps : List Expr)
    (writing : Mode.ofText m.text = .ok mode) (notRead : mode ≠ .read)
    (reading : Mode.ofText r.text = .ok .read)
    (handle : h.isBracket = false) (handle' : h'.isBracket = false)
    (sameFile : fileNameOf h' rest' = fileNameOf h rest)
    (opens : lib.disk.openForWriting (fileNameOf h rest) (mode == .write) = .ok (loc, opened))
    (plain : ∀ k, lib.disk.entry? loc ≠ some (.device k))
    (readable : lib.disk.readable loc = true)
    (initial : mode = .append → lib.disk.bytes loc = (linesText ls).toUTF8.toList)
    (emptied : mode = .write → ls = [])
    (lines : ∀ l ∈ ls, '\n' ∉ l.toList)
    (payloads : ∀ p ∈ ps,
      '\n' ∉ (Expr.render p).toList ∧ (Expr.render p).toList.getLast? ≠ some '\r') :
    let opening := lib.call "Open" (m :: h :: rest)
    let before i := opening.library.afterCalls ((ps.take i).map fun p => ("Put", h :: p))
    let filled := before ps.length
    let reopening := filled.call "Open" (r :: h' :: rest')
    let after k := reopening.library.afterCalls (List.replicate k ("Get", [h']))
    opening.result = .ok .noResult ∧ opening.output = "" ∧
      (∀ i (hi : i < ps.length),
        ((before i).call "Put" (h :: ps[i])).result = .ok (.value ps[i]) ∧
          ((before i).call "Put" (h :: ps[i])).output = "") ∧
      filled.disk.readText (fileNameOf h rest) = .ok (linesText (ls ++ ps.map Expr.render)) ∧
      reopening.result = .ok .noResult ∧ reopening.output = "" ∧
      ∀ k, ((after k).call "Get" [h']).result =
          .ok (.value ((ls.map lineValue ++ ps.map fun p => Expr.ofChars (Expr.render p)).getD k
            [.small 0])) ∧
        ((after k).call "Get" [h']).output = "" := by
  intro opening before filled reopening after
  obtain ⟨opened_ok, opened_silent, w⟩ :=
    writing_after_open writing notRead opens plain initial emptied
  obtain ⟨puts, written⟩ := Writing.puts handle w ps
  have all : filled = opening.library.afterCalls (ps.map fun p => ("Put", h :: p)) := by
    show opening.library.afterCalls ((ps.take ps.length).map _) = _
    rw [List.take_length]
  rw [← all, ← toUTF8_append, ← linesText_append] at written
  obtain ⟨reads, reopened_ok, reopened_silent, r⟩ :=
    reading_after_open written opens readable reading sameFile
  have text : filled.disk.readText (fileNameOf h rest) =
      .ok (linesText (ls ++ ps.map Expr.render)) :=
    readText_of_file reads written.file
  have single : ∀ l ∈ ls ++ ps.map Expr.render, '\n' ∉ l.toList := by
    intro l mem
    rcases List.mem_append.mp mem with old | new
    · exact lines l old
    · obtain ⟨p, put, rfl⟩ := List.mem_map.mp new
      exact (payloads p put).1
  have values : (ls ++ ps.map Expr.render).map lineValue =
      ls.map lineValue ++ ps.map fun p => Expr.ofChars (Expr.render p) := by
    rw [List.map_append, List.map_map]
    congr 1
    exact List.map_congr_left fun p mem => lineValue_of_no_return (payloads p mem).2
  refine ⟨opened_ok, opened_silent, puts, text, reopened_ok, reopened_silent, fun k => ?_⟩
  rw [← values]
  exact Reading.gets handle' r single k

/-- A file `a` holding the line `x`, appended the expression `y` under the handle `f`, and read
under the handle `g`. -/
theorem lines_round_trip_append :
    let lib := fresh [] (({} : Disk).set ⟨.work 0, ["a"]⟩ (.file "x\n".toUTF8.toList))
    let opening := lib.call "Open" [.char 'A', .char 'f', .char 'a']
    let before i := opening.library.afterCalls
      (([[.char 'y']] : List Expr).take i |>.map fun p => ("Put", .char 'f' :: p))
    let filled := before 1
    let reopening := filled.call "Open" [.char 'r', .char 'g', .char 'a']
    let after k := reopening.library.afterCalls (List.replicate k ("Get", [.char 'g']))
    opening.result = .ok .noResult ∧ opening.output = "" ∧
      (∀ i (hi : i < 1),
        ((before i).call "Put" (.char 'f' :: ([[.char 'y']] : List Expr)[i])).result =
            .ok (.value ([[.char 'y']] : List Expr)[i]) ∧
          ((before i).call "Put" (.char 'f' :: ([[.char 'y']] : List Expr)[i])).output = "") ∧
      filled.disk.readText "a" = .ok (linesText (["x"] ++ [[.char 'y']].map Expr.render)) ∧
      reopening.result = .ok .noResult ∧ reopening.output = "" ∧
      ∀ k, ((after k).call "Get" [.char 'g']).result =
          .ok (.value ((["x"].map lineValue ++
            ([[.char 'y']] : List Expr).map fun p => Expr.ofChars (Expr.render p)).getD k
              [.small 0])) ∧
        ((after k).call "Get" [.char 'g']).output = "" := by
  intro lib
  have named : fileNameOf (.char 'f') [.char 'a'] = "a" := by rfl
  have split : "a".splitOn "/" = ["a"] := by
    unfold String.splitOn
    rw [if_neg (by decide), String.splitOnAux, if_neg (by decide +kernel),
      if_neg (by decide +kernel), String.splitOnAux, if_pos (by decide +kernel)]
    decide +kernel
  have entry : lib.disk.entry? ⟨.work 0, ["a"]⟩ = some (.file "x\n".toUTF8.toList) := by rfl
  have opens : lib.disk.openForWriting (fileNameOf (.char 'f') [.char 'a']) (Mode.append == .write) =
      .ok (⟨.work 0, ["a"]⟩, lib.disk.set ⟨.work 0, ["a"]⟩ (.file "x\n".toUTF8.toList)) := by
    have slash : "a".endsWith "/" = false := by decide +kernel
    have absolute : "a".startsWith "/" = false := by simp
    have size : "a".utf8ByteSize = 1 := by decide
    have free : lib.disk.protection ⟨.work 0, ["a"]⟩ = none := by rfl
    rw [named]
    simp [openForWriting, checkPath, Path.ofString, split, slash, absolute, size, locate, pathMax,
      nameMax, walk, bind, Except.bind, pure, Except.pure, Location.here, Location.child, entry, free]
  have lines : linesText ["x"] = "x\n" := by simp [linesText]
  exact lines_round_trip lib (.char 'A') (.char 'f') (.char 'r') (.char 'g') [.char 'a'] [.char 'a']
    .append ⟨.work 0, ["a"]⟩ _ ["x"] [[.char 'y']] rfl (by decide) rfl rfl rfl rfl opens
    (fun k => by rw [entry]; simp) rfl (fun _ => by rw [lines]; rfl) (fun same => by cases same)
    (by simp) (by simp [Term.text])

end Refal.Library
