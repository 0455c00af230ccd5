import Refal.Proofs.Session

/-!
# What a call changes

The file table's layout is what programs can see of it: the registered handles, the mode of the
file under each, and the displaced files. Read positions and line buffers are not part of it.

Each built-in changes little. `Open` registers the file it opened, or fails and changes nothing;
`Get` moves the read position of one file, `Put` the buffer of one file and the disk; every other
built-in changes at most the store. So a call changes the layout only when it is an `Open` that
succeeds (`files_call`), and a call that fails changes neither the store nor the layout, nor
writes any output (`failed_call_atomic`).
-/

namespace Refal.Library

namespace FileTable

def handles (t : FileTable) : List String := t.registered.map (·.1)

def modeOf (t : FileTable) (handle : String) : Option Mode := (t.find? handle).map Channel.mode

/-- Two tables with the same handles, the same mode under each, and the same displaced files. -/
structure SameLayout (after before : FileTable) : Prop where
  handles : after.handles = before.handles
  modeOf : after.modeOf = before.modeOf
  displaced : after.displaced = before.displaced

theorem SameLayout.refl (t : FileTable) : t.SameLayout t := ⟨rfl, rfl, rfl⟩

theorem find?_update (t : FileTable) (handle h : String) (c : Channel) :
    (t.update handle c).find? h =
      if h = handle then (t.find? handle).map fun _ => c else t.find? h := by
  simp only [find?, update]
  induction t.registered with
  | nil => simp
  | cons p rest ih =>
    obtain ⟨k, old⟩ := p
    by_cases same : k = handle
    · -- the first entry is the one replaced
      subst same
      by_cases hk : h = k
      · subst hk
        simp
      · have skip : (h == k) = false := by simpa using hk
        rw [List.map_cons, if_pos rfl, List.lookup_cons, skip]
        dsimp only
        rw [ih, if_neg hk, if_neg hk, List.lookup_cons, skip]
    · rw [List.map_cons, if_neg same]
      by_cases hk : h = k
      · subst hk
        simp [same]
      · have skip : (h == k) = false := by simpa using hk
        have skip' : (handle == k) = false := by simpa using Ne.symm same
        simp only [List.lookup_cons, skip, skip', ih]

theorem find?_update_self {t : FileTable} {handle : String} {old : Channel}
    (found : t.find? handle = some old) (c : Channel) : (t.update handle c).find? handle = some c := by
  rw [find?_update, if_pos rfl, found]
  rfl

theorem find?_register (t : FileTable) (handle h : String) (c : Channel) :
    (t.register handle c).find? h = if h = handle then some c else t.find? h := by
  unfold register
  cases found : t.find? handle with
  | some old =>
    change (t.update handle c).find? h = _
    simp [find?_update, found]
  | none =>
    by_cases same : h = handle
    · subst same
      simp only [find?] at found ⊢
      simp [List.lookup_append, found]
    · have skip : (h == handle) = false := by simpa using same
      simp only [find?, List.lookup_append, List.lookup_cons, skip, List.lookup_nil, Option.or_none,
        if_neg same]

@[simp]
theorem handles_update (t : FileTable) (handle : String) (c : Channel) :
    (t.update handle c).handles = t.handles := by
  simp only [handles, update, List.map_map]
  congr 1
  funext p
  by_cases same : p.1 = handle <;> simp [same]

theorem find?_isSome_iff (t : FileTable) (h : String) : (t.find? h).isSome ↔ h ∈ t.handles := by
  simp [find?, handles, List.lookup_isSome_iff]

theorem handles_register (t : FileTable) (handle : String) (c : Channel) :
    (t.register handle c).handles =
      if (t.find? handle).isSome then t.handles else t.handles ++ [handle] := by
  unfold register
  cases t.find? handle with
  | some old => exact handles_update t handle c
  | none => simp [handles]

theorem displaced_register (t : FileTable) (handle : String) (c : Channel) :
    (t.register handle c).displaced = t.displaced ++ (t.find? handle).toList := by
  unfold register
  cases t.find? handle <;> simp

theorem modeOf_register (t : FileTable) (handle h : String) (c : Channel) :
    (t.register handle c).modeOf h = if h = handle then some c.mode else t.modeOf h := by
  simp only [modeOf, find?_register]
  split <;> rfl

theorem sameLayout_update {t : FileTable} {handle : String} {old c : Channel}
    (found : t.find? handle = some old) (same : c.mode = old.mode) :
    (t.update handle c).SameLayout t := by
  refine ⟨handles_update t handle c, ?_, rfl⟩
  funext h
  simp only [modeOf, find?_update]
  split
  · rename_i hk
    subst hk
    simp [found, same]
  · rfl

end FileTable

theorem Channel.mode_openAt {d d' : Disk} {mode : Mode} {path : String} {c : Channel}
    (opened : Channel.openAt d mode path = .ok (c, d')) : c.mode = mode := by
  cases mode <;> simp only [Channel.openAt, Except.map] at opened <;> split at opened <;>
    cases opened <;> rfl

@[simp]
theorem Expr.render_single (t : Term) : Expr.render [t] = t.text := by
  cases t <;> simp [Expr.render, Expr.renderAfter, Term.text]

/-- The handle and the mode that a call asks a file to be opened under, if it is a call of
`Open` with a mode and a handle. -/
def openRequest (name : String) (e : Expr) : Option (String × Mode) :=
  match Builtin.ofName? name, e with
  | some .openFile, m :: h :: _ => (Mode.ofText m.text).toOption.map fun mode => (Expr.render [h], mode)
  | _, _ => none

/-! ## What each call does to the table -/

/-- `Open` either fails and changes nothing, or registers the file it opened under its handle. -/
theorem openFile_cases (lib : Library) (e : Expr) :
    (∃ f, lib.openFile e = lib.fail f) ∨
      ∃ m h rest mode c disk, e = m :: h :: rest ∧ Mode.ofText m.text = .ok mode ∧
        Channel.openAt lib.disk mode (fileNameOf h rest) = .ok (c, disk) ∧
        lib.openFile e =
          ⟨.ok .noResult, { lib with files := lib.files.register h.text c, disk }, ""⟩ := by
  unfold openFile
  split
  · exact .inl ⟨_, rfl⟩
  · exact .inl ⟨_, rfl⟩
  · rename_i m h rest
    split
    · exact .inl ⟨_, rfl⟩
    · rename_i mode named
      dsimp only
      split
      · exact .inl ⟨_, rfl⟩
      · rename_i c disk opened
        exact .inr ⟨m, h, rest, mode, c, disk, rfl, named, opened, rfl⟩

/-- `Get` writes nothing, and changes at most the read position of the file registered under
its handle. -/
theorem get_cases (lib : Library) (e : Expr) :
    (lib.get e).output = "" ∧ ((lib.get e).library = lib ∨
      ∃ handle file st st', handleOf e = some handle ∧
        lib.files.find? handle = some (.reader file st) ∧
        (lib.get e).library = { lib with files := lib.files.update handle (.reader file st') }) := by
  unfold get
  split
  · exact ⟨rfl, .inl rfl⟩
  · rename_i handle named
    split
    · rename_i file st found
      split
      · exact ⟨rfl, .inl rfl⟩
      · -- the line is consumed whatever comes of it
        repeat' split
        all_goals exact ⟨rfl, .inr ⟨handle, file, st, _, named, found, rfl⟩⟩
    · exact ⟨rfl, .inl rfl⟩

/-- `Put` either writes the whole argument as a line of output, or writes to the file registered
under its handle, open for writing or appending, and then writes no output and changes nothing
but that file's offset and buffer and the disk. -/
theorem put_cases (lib : Library) (e : Expr) :
    lib.put e = lib.writeLine e .noResult ∨
      ∃ handle c c' disk, handleOf e = some handle ∧ lib.files.find? handle = some c ∧
        c.mode ≠ .read ∧ c'.mode = c.mode ∧ (lib.put e).output = "" ∧
        (lib.put e).library = { lib with files := lib.files.update handle c', disk } := by
  unfold put
  split
  · exact .inl rfl
  · rename_i handle named
    split
    · rename_i file offset held found
      right
      dsimp only
      split <;>
        exact ⟨handle, _, _, _, named, found, by simp [Channel.mode], by rfl, rfl, rfl⟩
    · rename_i file held found
      right
      dsimp only
      split <;>
        exact ⟨handle, _, _, _, named, found, by simp [Channel.mode], by rfl, rfl, rfl⟩
    · exact .inl rfl

theorem get_sameLayout (lib : Library) (e : Expr) : (lib.get e).library.files.SameLayout lib.files := by
  obtain ⟨-, same | ⟨handle, file, st, st', -, found, moved⟩⟩ := get_cases lib e
  · rw [same]
    exact .refl _
  · rw [moved]
    exact FileTable.sameLayout_update found rfl

theorem put_sameLayout (lib : Library) (e : Expr) : (lib.put e).library.files.SameLayout lib.files := by
  rcases put_cases lib e with fallback | ⟨handle, c, c', disk, -, found, -, same, -, wrote⟩
  · rw [fallback]
    exact .refl _
  · rw [wrote]
    exact FileTable.sameLayout_update found same

/-- Every built-in but `Open`, `Get` and `Put` changes at most the store. -/
theorem apply_only_store (lib : Library) {b : Builtin} (other : b ≠ .openFile ∧ b ≠ .get ∧ b ≠ .put)
    (e : Expr) : (lib.apply b e).library = { lib with store := (lib.apply b e).library.store } := by
  cases b with
  | openFile | get | put => simp at other
  | arg =>
    dsimp only [apply, arg]
    repeat' split
    all_goals rfl
  | bury =>
    dsimp only [apply, bury]
    split <;> rfl
  | dig =>
    dsimp only [apply, dig]
    split <;> rfl
  | arith op =>
    dsimp only [apply]
    cases op.apply e <;> rfl
  | numb =>
    dsimp only [apply]
    cases numbOf e <;> rfl
  | _ => rfl

/-- A built-in other than `Open`, `Get` and `Put` that fails does nothing else. -/
theorem apply_error_other (lib : Library) {b : Builtin} (other : b ≠ .openFile ∧ b ≠ .get ∧ b ≠ .put)
    {e : Expr} {f : Fault} (failed : (lib.apply b e).result = .error f) : lib.apply b e = lib.fail f := by
  revert failed
  cases b with
  | openFile | get | put => simp at other
  | arg =>
    dsimp only [apply, arg]
    repeat' split
    all_goals
      intro failed
      cases failed
    all_goals rfl
  | bury =>
    dsimp only [apply, bury]
    split
    all_goals
      intro failed
      cases failed
    rfl
  | dig =>
    dsimp only [apply, dig]
    split
    all_goals
      intro failed
      cases failed
    rfl
  | arith op =>
    dsimp only [apply]
    cases op.apply e
    all_goals
      intro failed
      cases failed
    rfl
  | numb =>
    dsimp only [apply]
    cases numbOf e
    all_goals
      intro failed
      cases failed
    rfl
  | absent name =>
    intro failed
    cases failed
    rfl
  | _ =>
    intro failed
    cases failed

theorem openRequest_of_ne {name : String} {b : Builtin} (named : Builtin.ofName? name = some b)
    (other : b ≠ .openFile) (e : Expr) : openRequest name e = none := by
  unfold openRequest
  rw [named]
  split
  · rename_i same
    exact absurd (Option.some.inj same) other
  · rfl

/-- What a call does to the file table: an `Open` that succeeds registers the file it opened
under the handle it asked for, in the mode it asked for; every other call, and every `Open` that
fails, keeps the layout. -/
theorem files_call (lib : Library) (name : String) (e : Expr) :
    (∃ handle mode c, openRequest name e = some (handle, mode) ∧
        (lib.call name e).result = .ok .noResult ∧ c.mode = mode ∧
        (lib.call name e).library.files = lib.files.register handle c) ∨
      ((lib.call name e).library.files.SameLayout lib.files ∧
        ((openRequest name e).isSome → ∃ f, (lib.call name e).result = .error f)) := by
  cases named : Builtin.ofName? name with
  | none =>
    right
    simp [call, named, fail, openRequest, FileTable.SameLayout.refl]
  | some b =>
    rw [call_eq_apply named]
    cases b with
    | openFile =>
      rcases openFile_cases lib e with ⟨f, failed⟩ | ⟨m, h, rest, mode, c, disk, rfl, asked, opened, success⟩
      · right
        simp only [apply, failed, fail]
        exact ⟨.refl _, fun _ => ⟨f, rfl⟩⟩
      · left
        refine ⟨h.text, mode, c, ?_, by simp [apply, success], Channel.mode_openAt opened, by simp [apply, success]⟩
        simp [openRequest, named, asked, Except.toOption]
    | get => exact .inr ⟨get_sameLayout lib e, by simp [openRequest_of_ne named (by simp)]⟩
    | put => exact .inr ⟨put_sameLayout lib e, by simp [openRequest_of_ne named (by simp)]⟩
    | _ =>
      right
      refine ⟨?_, by simp [openRequest_of_ne named (by simp)]⟩
      rw [apply_only_store lib (by simp) e]
      exact .refl _

/-- A call that fails writes nothing and changes neither the store, nor the program's arguments,
nor the layout of the file table. -/
theorem call_error {lib : Library} {name : String} {e : Expr} {f : Fault}
    (failed : (lib.call name e).result = .error f) :
    (lib.call name e).output = "" ∧ (lib.call name e).library.store = lib.store ∧
      (lib.call name e).library.arguments = lib.arguments ∧
      (lib.call name e).library.files.SameLayout lib.files := by
  cases named : Builtin.ofName? name with
  | none => simp [call, named, fail, FileTable.SameLayout.refl]
  | some b =>
    rw [call_eq_apply named] at failed ⊢
    cases b with
    | openFile =>
      rcases openFile_cases lib e with ⟨f', fails⟩ | ⟨m, h, rest, mode, c, disk, rfl, -, -, success⟩
      · simp [apply, fails, fail, FileTable.SameLayout.refl]
      · simp [apply, success] at failed
    | get =>
      obtain ⟨silent, same | ⟨handle, file, st, st', -, found, moved⟩⟩ := get_cases lib e
      · exact ⟨silent, by simp [apply, same], by simp [apply, same], get_sameLayout lib e⟩
      · exact ⟨silent, by simp [apply, moved], by simp [apply, moved], get_sameLayout lib e⟩
    | put =>
      rcases put_cases lib e with fallback | ⟨handle, c, c', disk, -, found, -, same, silent, wrote⟩
      · simp [apply, fallback, writeLine] at failed
      · exact ⟨silent, by simp [apply, wrote], by simp [apply, wrote], put_sameLayout lib e⟩
    | _ =>
      rw [apply_error_other lib (by simp) failed]
      exact ⟨rfl, rfl, rfl, .refl _⟩

/-- A call that fails leaves the library as it found it: the store, the registered handles with
the mode of the file under each, the displaced files and the program's arguments are unchanged,
and nothing is written to the output. File contents, read positions and line buffers are not
part of what is kept. -/
theorem failed_call_atomic (lib : Library) (name : String) (e : Expr) (f : Fault)
    (failed : (lib.call name e).result = .error f) :
    let after := (lib.call name e).library
    after.store = lib.store ∧ after.files.handles = lib.files.handles ∧
      after.files.modeOf = lib.files.modeOf ∧ after.files.displaced = lib.files.displaced ∧
      after.arguments = lib.arguments ∧ (lib.call name e).output = "" := by
  obtain ⟨silent, store, arguments, layout⟩ := call_error failed
  exact ⟨store, layout.handles, layout.modeOf, layout.displaced, arguments, silent⟩

/-- Digging under a key that nothing is buried under, after a burial, changes nothing. -/
theorem failed_call_atomic_missing_key :
    let lib := (fresh [] Disk.system).afterCalls [("Br", [.char 'k', .char '=', .char 'v'])]
    let after := (lib.call "Dg" [.char 'x']).library
    (lib.call "Dg" [.char 'x']).result = .error (.keyNotFound "x") ∧
      after.store = lib.store ∧ after.files.handles = lib.files.handles ∧
      after.files.modeOf = lib.files.modeOf ∧ after.files.displaced = lib.files.displaced ∧
      after.arguments = lib.arguments ∧ (lib.call "Dg" [.char 'x']).output = "" := by
  intro lib after
  have failed : (lib.call "Dg" [.char 'x']).result = .error (.keyNotFound "x") := by rfl
  exact ⟨failed, failed_call_atomic lib "Dg" [.char 'x'] _ failed⟩

end Refal.Library
