import Refal.Proofs.Effects

/-!
# The file table along a run

A run of a program is a sequence of calls and closings of every file. The `Open` calls that
succeeded since files were last closed (`openLog`) describe the table that the run reaches: one
open file for each of them, registered or displaced, and the distinct handles they asked for as
the registered ones, each with the mode of the latest (`FileTable.Tracks`). Each step keeps that
description, since a call changes the layout only by registering what a successful `Open`
opened. Beside it, `Get` and `Put` reach the file registered under the rendering of their first
term, and closing releases every file.
-/

namespace Refal.Library

/-! ## Runs of calls and closings -/

/-- A step of a program: a call, or closing every file. -/
inductive Action where
  | call (name : String) (argument : Expr)
  | closeFiles

def perform (lib : Library) : Action → Library
  | .call name e => (lib.call name e).library
  | .closeFiles => lib.closeFiles.2

/-- The library after `actions`, each taken on the library that the one before it left. -/
def afterActions (lib : Library) (actions : List Action) : Library := actions.foldl perform lib

/-- The record of successful `Open`s after one step: a call of `Open` that succeeds adds the
handle and the mode it asked for, and closing every file starts the record afresh. -/
def recordOpen (lib : Library) : Action → List (String × Mode) → List (String × Mode)
  | .call name e, log =>
    if (lib.call name e).result.isOk then log ++ (openRequest name e).toList else log
  | .closeFiles, _ => []

/-- The handle and mode of every `Open` that succeeded along `actions` since files were last
closed, in order, after the record `log` of the steps before. -/
def openLog : Library → List Action → List (String × Mode) → List (String × Mode)
  | _, [], log => log
  | lib, a :: rest, log => openLog (lib.perform a) rest (lib.recordOpen a log)

namespace FileTable

theorem count_eq_length_handles (t : FileTable) : t.count = t.handles.length := by
  simp [count, handles]

/-- The table holds one file for each `Open` in `log`, registered or displaced; its handles are
those that `log` names, each once, with the mode of the latest `Open` under it. -/
structure Tracks (t : FileTable) (log : List (String × Mode)) : Prop where
  count : t.count + t.displaced.length = log.length
  nodup : t.handles.Nodup
  modeOf : ∀ h, t.modeOf h = log.reverse.lookup h

theorem Tracks.empty : ({} : FileTable).Tracks [] :=
  ⟨rfl, List.nodup_nil, fun _ => rfl⟩

theorem Tracks.sameLayout {t t' : FileTable} {log : List (String × Mode)} (tracks : t.Tracks log)
    (same : t'.SameLayout t) : t'.Tracks log where
  count := by rw [count_eq_length_handles, same.handles, same.displaced, ← count_eq_length_handles,
    tracks.count]
  nodup := same.handles ▸ tracks.nodup
  modeOf := same.modeOf ▸ tracks.modeOf

theorem Tracks.register {t : FileTable} {log : List (String × Mode)} (tracks : t.Tracks log)
    (handle : String) (c : Channel) : (t.register handle c).Tracks (log ++ [(handle, c.mode)]) where
  count := by
    rw [count_register, displaced_register, List.length_append, List.length_append, ← tracks.count]
    cases found : t.find? handle <;> simp <;> omega
  nodup := by
    rw [handles_register]
    split
    · exact tracks.nodup
    · rename_i free
      have absent : handle ∉ t.handles := fun mem => free ((find?_isSome_iff t handle).mpr mem)
      exact List.nodup_append.mpr ⟨tracks.nodup, by simp, by
        intro a mem b single
        rw [List.mem_singleton] at single
        subst single
        exact fun same => absent (same ▸ mem)⟩
  modeOf := by
    intro h
    rw [modeOf_register, List.reverse_append, List.reverse_singleton, List.singleton_append,
      List.lookup_cons]
    by_cases same : h = handle
    · simp [same]
    · have skip : (h == handle) = false := by simpa using same
      simp only [same, if_false, skip, tracks.modeOf h]

end FileTable

/-- One call keeps the file table tracking the record of successful `Open`s. -/
theorem FileTable.Tracks.call {lib : Library} {log : List (String × Mode)}
    (tracks : lib.files.Tracks log) (name : String) (e : Expr) :
    (lib.call name e).library.files.Tracks (lib.recordOpen (.call name e) log) := by
  rcases files_call lib name e with ⟨handle, mode, c, asked, opened, mode_c, registered⟩ |
    ⟨same, failed⟩
  · have recorded : lib.recordOpen (.call name e) log = log ++ [(handle, c.mode)] := by
      simp [recordOpen, opened, asked, mode_c, Except.isOk, Except.toBool]
    rw [registered, recorded]
    exact tracks.register handle c
  · have recorded : lib.recordOpen (.call name e) log = log := by
      simp only [recordOpen]
      cases request : openRequest name e with
      | none => simp
      | some entry =>
        obtain ⟨f, fails⟩ := failed (by simp [request])
        simp [fails, Except.isOk, Except.toBool]
    rw [recorded]
    exact tracks.sameLayout same

theorem FileTable.Tracks.perform {lib : Library} {log : List (String × Mode)}
    (tracks : lib.files.Tracks log) (a : Action) :
    (lib.perform a).files.Tracks (lib.recordOpen a log) := by
  cases a with
  | call name e => exact tracks.call name e
  | closeFiles => exact FileTable.Tracks.empty

/-- Along every run, the file table tracks the successful `Open`s since files were last closed. -/
theorem FileTable.Tracks.afterActions {lib : Library} {log : List (String × Mode)}
    (tracks : lib.files.Tracks log) (actions : List Action) :
    (lib.afterActions actions).files.Tracks (lib.openLog actions log) := by
  induction actions generalizing lib log with
  | nil => exact tracks
  | cons a rest ih => exact ih (tracks.perform a)

/-! ## Files named by handles -/

/-- The mode of the file registered under the rendering of an argument's first term, when that
term is no bracket. -/
def modeNamedBy (lib : Library) : Expr → Option Mode
  | t :: _ => if t.isBracket then none else lib.files.modeOf (Expr.render [t])
  | [] => none

theorem modeNamedBy_eq (lib : Library) (e : Expr) :
    lib.modeNamedBy e = (handleOf e).bind lib.files.modeOf := by
  cases e with
  | nil => rfl
  | cons t rest => by_cases bracket : t.isBracket <;> simp [modeNamedBy, handleOf, bracket]

/-- `Get` fails as a read from the terminal exactly when no file open for reading is registered
under its handle. -/
theorem get_unread_iff (lib : Library) (e : Expr) :
    (lib.get e).result = .error (.notImplemented "Card") ↔ lib.modeNamedBy e ≠ some .read := by
  rw [modeNamedBy_eq]
  unfold get
  split
  · rename_i unnamed
    simp [unnamed, fail]
  · rename_i handle named
    simp only [named, Option.bind_some, FileTable.modeOf]
    split
    · rename_i file st found
      simp only [found, Option.map_some, Channel.mode, ne_eq, not_true_eq_false, iff_false]
      split
      · simp [fail]
      · split
        · simp [give]
        · split <;> simp [fail, give]
    · rename_i notReader
      simp only [fail, true_iff]
      cases found : lib.files.find? handle with
      | none => simp
      | some c =>
        cases c with
        | reader file st => exact absurd found (notReader file st)
        | _ => simp [Channel.mode]

theorem writeLine_output_ne_empty (lib : Library) (e : Expr) (o : Outcome) :
    (lib.writeLine e o).output ≠ "" := by
  simp [writeLine, String.append_eq_empty_iff]

/-- `Put` falls back to writing its argument as a line of output exactly when no file open for
writing or appending is registered under its handle. -/
theorem put_fallback_iff (lib : Library) (e : Expr) :
    lib.put e = lib.writeLine e .noResult ↔
      lib.modeNamedBy e ≠ some .write ∧ lib.modeNamedBy e ≠ some .append := by
  rw [modeNamedBy_eq]
  unfold put
  split
  · rename_i unnamed
    simp [unnamed]
  · rename_i handle named
    simp only [named, Option.bind_some, FileTable.modeOf]
    split
    · rename_i file offset held found
      simp only [found, Option.map_some, Channel.mode, ne_eq, not_true_eq_false, false_and,
        iff_false]
      intro same
      apply writeLine_output_ne_empty lib e .noResult
      rw [← same]
      split <;> rfl
    · rename_i file held found
      simp only [found, Option.map_some, Channel.mode, ne_eq, not_true_eq_false, and_false,
        iff_false]
      intro same
      apply writeLine_output_ne_empty lib e .noResult
      rw [← same]
      split <;> rfl
    · rename_i notWriter notAppender
      simp only [true_iff]
      cases found : lib.files.find? handle with
      | none => simp
      | some c =>
        cases c with
        | reader file st => simp [Channel.mode]
        | writer file offset held => exact absurd found (notWriter file offset held)
        | appender file held => exact absurd found (notAppender file held)

/-- `Get` addresses files by the rendering of the first term: `1`, `'1'` and `"1"` name the same
file, and what follows the handle is ignored. -/
theorem get_by_rendering (lib : Library) {t t' : Term} (rest rest' : Expr)
    (symbol : t.isBracket = false) (symbol' : t'.isBracket = false)
    (same : Expr.render [t] = Expr.render [t']) : lib.get (t :: rest) = lib.get (t' :: rest') := by
  rw [Expr.render_single, Expr.render_single] at same
  simp only [get, handleOf, symbol, symbol', same, Bool.false_eq_true, if_false]

/-- `Put` addresses files by the rendering of the first term: two handles that render alike give
the same answer and the same library. -/
theorem put_by_rendering (lib : Library) {t t' : Term} (p : Expr)
    (symbol : t.isBracket = false) (symbol' : t'.isBracket = false)
    (same : Expr.render [t] = Expr.render [t']) :
    (lib.put (t :: p)).result = (lib.put (t' :: p)).result ∧
      (lib.put (t :: p)).library = (lib.put (t' :: p)).library := by
  rw [Expr.render_single, Expr.render_single] at same
  have payload : Expr.renderFrom (t :: p) 1 = Expr.renderFrom (t' :: p) 1 := rfl
  simp only [put, handleOf, symbol, symbol', same, payload, Bool.false_eq_true, if_false,
    List.tail_cons]
  split <;> simp [writeLine]

theorem get_elsewhere (lib : Library) {e : Expr} {h : String} (other : handleOf e ≠ some h) :
    (lib.get e).library.files.find? h = lib.files.find? h := by
  obtain ⟨-, same | ⟨handle, file, st, st', named, -, moved⟩⟩ := get_cases lib e
  · rw [same]
  · have different : h ≠ handle := fun eq => other (eq ▸ named)
    rw [moved, FileTable.find?_update, if_neg different]

theorem put_elsewhere (lib : Library) {e : Expr} {h : String} (other : handleOf e ≠ some h) :
    (lib.put e).library.files.find? h = lib.files.find? h := by
  rcases put_cases lib e with fallback | ⟨handle, c, c', disk, named, -, -, -, -, wrote⟩
  · rw [fallback]
    rfl
  · have different : h ≠ handle := fun eq => other (eq ▸ named)
    rw [wrote]
    exact (FileTable.find?_update lib.files handle h c').trans (if_neg different)

/-! ## Closing every file -/

@[simp]
theorem closeFiles_files (lib : Library) : lib.closeFiles.2.files = {} := rfl

/-- Closing sends every file's buffer, registered or displaced, whether or not another one fails
to be sent: the disk after closing is the disk after closing each file in turn. -/
theorem closeFiles_disk (lib : Library) :
    lib.closeFiles.2.disk =
      lib.files.closingOrder.foldl (fun d named => (named.2.close d).1) lib.disk := by
  unfold closeFiles
  dsimp only
  generalize lib.files.closingOrder = files
  generalize (none : Option Fault) = failure
  generalize lib.disk = disk
  -- the failure carried along never feeds back into the disk
  induction files generalizing disk failure with
  | nil => rfl
  | cons named rest ih => exact ih _ _

/-- Closing again finds no file, fails at nothing and changes nothing. -/
theorem closeFiles_again (lib : Library) : lib.closeFiles.2.closeFiles = (none, lib.closeFiles.2) := rfl

/-! ## The file table along a run -/

/-- Along every run of calls and closings from a fresh library, the file table holds one open
file, registered or displaced, for each `Open` that succeeded since files were last closed, and
its handles are the distinct handles those `Open`s asked for, each with the mode of the latest
of them. `Get` and `Put` reach the file registered under the rendering of their first term and
no other; `Get` reads only from a file open for reading and fails as a read from the terminal
otherwise, and `Put` writes only to a file open for writing or appending and is `Prout`
otherwise. Closing releases every file, registered or displaced, whatever fails on the way, and
closing a second time fails at nothing and changes nothing. -/
theorem fileTable_tracks_opens (arguments : List String) (disk : Disk) (actions : List Action) :
    let lib := (fresh arguments disk).afterActions actions
    let opened := (fresh arguments disk).openLog actions []
    lib.openCount + lib.files.displaced.length = opened.length ∧
    lib.files.handles.Nodup ∧ (∀ h, lib.files.modeOf h = opened.reverse.lookup h) ∧
    (∀ e, (lib.call "Get" e).result = .error (.notImplemented "Card") ↔
      lib.modeNamedBy e ≠ some .read) ∧
    (∀ e, lib.call "Put" e = lib.call "Prout" e ↔
      lib.modeNamedBy e ≠ some .write ∧ lib.modeNamedBy e ≠ some .append) ∧
    (∀ name t t' rest, (name = "Get" ∨ name = "Put") → t.isBracket = false →
      t'.isBracket = false → Expr.render [t] = Expr.render [t'] →
      (lib.call name (t :: rest)).result = (lib.call name (t' :: rest)).result ∧
        (lib.call name (t :: rest)).library = (lib.call name (t' :: rest)).library) ∧
    (∀ name t rest h, (name = "Get" ∨ name = "Put") → t.isBracket = false →
      h ≠ Expr.render [t] →
      (lib.call name (t :: rest)).library.files.find? h = lib.files.find? h ∧
        (lib.call name (t :: rest)).library.files.displaced = lib.files.displaced) ∧
    lib.closeFiles.2.files.registered = [] ∧ lib.closeFiles.2.files.displaced = [] ∧
    lib.closeFiles.2.disk =
      lib.files.closingOrder.foldl (fun d named => (named.2.close d).1) lib.disk ∧
    lib.closeFiles.2.closeFiles = (none, lib.closeFiles.2) := by
  intro lib opened
  have tracks : lib.files.Tracks opened := FileTable.Tracks.empty.afterActions actions
  have get : ∀ e, lib.call "Get" e = lib.get e := @call_eq_apply lib "Get" .get rfl
  have put : ∀ e, lib.call "Put" e = lib.put e := @call_eq_apply lib "Put" .put rfl
  have prout : ∀ e, lib.call "Prout" e = lib.writeLine e .noResult :=
    @call_eq_apply lib "Prout" .prout rfl
  refine ⟨tracks.count, tracks.nodup, tracks.modeOf, fun e => get e ▸ get_unread_iff lib e,
    fun e => (put e).symm ▸ (prout e).symm ▸ put_fallback_iff lib e, ?_, ?_, rfl, rfl,
    closeFiles_disk lib, closeFiles_again lib⟩
  · intro name t t' rest named symbol symbol' same
    rcases named with rfl | rfl
    · rw [get, get, get_by_rendering lib rest rest symbol symbol' same]
      exact ⟨rfl, rfl⟩
    · rw [put, put]
      exact put_by_rendering lib rest symbol symbol' same
  · intro name t rest h named symbol other
    have handle : handleOf (t :: rest) = some (Expr.render [t]) := by simp [handleOf, symbol]
    have elsewhere : handleOf (t :: rest) ≠ some h := by
      rw [handle]
      exact fun same => other (Option.some.inj same).symm
    rcases named with rfl | rfl
    · rw [get]
      exact ⟨get_elsewhere lib elsewhere, (get_sameLayout lib _).displaced⟩
    · rw [put]
      exact ⟨put_elsewhere lib elsewhere, (put_sameLayout lib _).displaced⟩

end Refal.Library
