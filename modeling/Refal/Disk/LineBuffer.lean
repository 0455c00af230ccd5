import Refal.Disk.Stream

/-!
# Line-buffered writing

A file open for writing is written through a line buffer of 1024 bytes. Bytes without a line
feed wait in the buffer, and are sent on when a later line feed comes or when they no longer
fit; a write that holds a line feed sends everything up to its last line feed at once and keeps
the rest; a write at least as long as the buffer goes straight to the file.

Sending meets the file's refusal, if it has one: every write to the full device fails. Bytes that
could not be sent stay in the buffer and are tried again when the file is closed. On a file that
takes every write, writing a line leaves the buffer empty (`writeLine_of_accepting`), so each
line reaches the file as it is written.
-/

namespace Refal.Disk

def lineBufferSize : Nat := 1024

/-- A line buffer: the bytes it holds, and the bytes it has sent on so far. -/
structure LineBuffer where
  held : Bytes := []
  sent : Bytes := []
  deriving DecidableEq

/-- A buffer after a write, with the failure that stopped the write, if any. -/
abbrev Written := LineBuffer × Option IoFailure

def Written.andThen (w : Written) (k : LineBuffer → Written) : Written :=
  match w with
  | (b, none) => k b
  | (b, some f) => (b, some f)

namespace LineBuffer

/-- Sends `data` to the file past the buffer, unless the file refuses it. -/
def sendPast (refusal : Option IoFailure) (b : LineBuffer) (data : Bytes) : Written :=
  if data = [] then (b, none)
  else
    match refusal with
    | none => ({ b with sent := b.sent ++ data }, none)
    | some f => (b, some f)

/-- Sends what the buffer holds; if the file refuses, the buffer keeps it. -/
def flush (refusal : Option IoFailure) (b : LineBuffer) : Written :=
  if b.held = [] then (b, none)
  else
    match refusal with
    | none => ({ held := [], sent := b.sent ++ b.held }, none)
    | some f => (b, some f)

/-- Puts `data` into the buffer. When it does not fit beside what is held, that is sent first;
when it is at least as long as the buffer, it goes straight to the file. -/
def store (refusal : Option IoFailure) (b : LineBuffer) (data : Bytes) : Written :=
  if data.length + b.held.length < lineBufferSize then ({ b with held := b.held ++ data }, none)
  else
    (if lineBufferSize < b.held.length + data.length then b.flush refusal else (b, none)).andThen
      fun b =>
        if lineBufferSize ≤ data.length then b.sendPast refusal data
        else ({ b with held := b.held ++ data }, none)

end LineBuffer

/-- Splits bytes after their last line feed: the lines, ending with it, and the rest; `none`
when there is no line feed. -/
def splitAfterLastLineFeed (data : Bytes) : Option (Bytes × Bytes) :=
  let rest := (data.reverse.takeWhile (· ≠ lineFeed)).reverse
  if rest.length = data.length then none
  else some (data.take (data.length - rest.length), rest)

namespace LineBuffer

/-- Writes `data` through the buffer. Without a line feed it is stored, after sending a held
line that is complete. With one, the lines up to the last line feed are sent (past the buffer
when it is empty, else together with what it holds) and the rest is stored. -/
def write (refusal : Option IoFailure) (b : LineBuffer) (data : Bytes) : Written :=
  match splitAfterLastLineFeed data with
  | none =>
    (if b.held.getLast? = some lineFeed then b.flush refusal else (b, none)).andThen
      fun b => b.store refusal data
  | some (lines, rest) =>
    (if b.held = [] then b.sendPast refusal lines
      else (b.store refusal lines).andThen fun b => b.flush refusal).andThen
      fun b => b.store refusal rest

def writeLine (refusal : Option IoFailure) (b : LineBuffer) (text : Bytes) : Written :=
  (b.write refusal text).andThen fun b => b.write refusal [lineFeed]

end LineBuffer

theorem splitAfterLastLineFeed_append {data lines rest : Bytes}
    (h : splitAfterLastLineFeed data = some (lines, rest)) : lines ++ rest = data := by
  unfold splitAfterLastLineFeed at h
  dsimp only at h
  have hs : (data.reverse.takeWhile (· ≠ lineFeed)).reverse <:+ data := by
    rw [← List.reverse_prefix, List.reverse_reverse]
    exact List.takeWhile_prefix _
  generalize (data.reverse.takeWhile (· ≠ lineFeed)).reverse = r at h hs
  obtain ⟨t, rfl⟩ := hs
  split at h
  · simp at h
  · simp only [Option.some.injEq, Prod.mk.injEq] at h
    obtain ⟨rfl, rfl⟩ := h
    simp

theorem splitAfterLastLineFeed_lineFeed :
    splitAfterLastLineFeed [lineFeed] = some ([lineFeed], []) := by
  decide

namespace LineBuffer

@[simp]
theorem sendPast_none (b : LineBuffer) (data : Bytes) :
    sendPast none b data = ({ b with sent := b.sent ++ data }, none) := by
  unfold sendPast
  split <;> simp_all

@[simp]
theorem andThen_ok (b : LineBuffer) (k : LineBuffer → Written) :
    Written.andThen (b, none) k = k b := rfl

/-- On a file that takes every write, an empty buffer keeps data shorter than itself and sends
longer data on. -/
theorem store_of_accepting (s data : Bytes) :
    store none { held := [], sent := s } data =
      if data.length < lineBufferSize then ({ held := data, sent := s }, none)
      else ({ held := [], sent := s ++ data }, none) := by
  unfold store
  simp only [List.length_nil, Nat.add_zero, Nat.zero_add, List.nil_append]
  by_cases hd : data.length < lineBufferSize
  · rw [if_pos hd, if_pos hd]
  · rw [if_neg hd]
    have hle := Nat.le_of_not_lt hd
    by_cases hlt : lineBufferSize < data.length
    · simp [hlt, hle, hd, flush]
    · simp [hlt, hle, hd]

/-- On a file that takes every write, writing into an empty buffer sends or keeps every byte, and
keeps fewer bytes than the buffer holds. -/
theorem write_of_accepting (s text : Bytes) :
    ∃ held sent, write none { held := [], sent := s } text = ({ held, sent }, none) ∧
      sent ++ held = s ++ text ∧ held.length < lineBufferSize := by
  unfold write
  cases hsplit : splitAfterLastLineFeed text with
  | none =>
    simp only [List.getLast?_nil, reduceCtorEq, if_false, andThen_ok, store_of_accepting]
    by_cases hd : text.length < lineBufferSize
    · exact ⟨text, s, by rw [if_pos hd]; simp [hd]⟩
    · exact ⟨[], s ++ text, by rw [if_neg hd]; simp [lineBufferSize]⟩
  | some p =>
    obtain ⟨lines, rest⟩ := p
    have happ := splitAfterLastLineFeed_append hsplit
    simp only [if_true, sendPast_none, andThen_ok, store_of_accepting]
    by_cases hd : rest.length < lineBufferSize
    · exact ⟨rest, s ++ lines, by rw [if_pos hd]; simp [hd, ← happ]⟩
    · exact ⟨[], s ++ lines ++ rest, by rw [if_neg hd]; simp [← happ, lineBufferSize]⟩

/-- On a file that takes every write, a line feed sends what the buffer holds together with it. -/
theorem write_lineFeed_of_accepting (held s : Bytes) (hh : held.length < lineBufferSize) :
    write none { held, sent := s } [lineFeed] =
      ({ held := [], sent := s ++ held ++ [lineFeed] }, none) := by
  unfold write
  rw [splitAfterLastLineFeed_lineFeed]
  by_cases h0 : held = []
  · subst h0
    simp [store, lineBufferSize]
  · have hstore : store none { held, sent := s } [lineFeed] =
        ({ held := held ++ [lineFeed], sent := s }, none) := by
      unfold store
      simp only [List.length_singleton]
      by_cases hs : 1 + held.length < lineBufferSize
      · rw [if_pos hs]
      · have h1 : ¬ lineBufferSize < held.length + 1 := by omega
        have h2 : ¬ lineBufferSize ≤ 1 := by simp [lineBufferSize]
        rw [if_neg hs, if_neg h1, andThen_ok, if_neg h2]
    simp only [h0, if_false, hstore, andThen_ok, flush, List.append_eq_nil_iff, reduceCtorEq,
      and_false]
    simp [store, lineBufferSize]

/-- On a file that takes every write, writing a line into an empty buffer sends the text and its
line feed at once, and leaves the buffer empty. -/
theorem writeLine_of_accepting (s text : Bytes) :
    writeLine none { held := [], sent := s } text =
      ({ held := [], sent := s ++ text ++ [lineFeed] }, none) := by
  obtain ⟨held, sent, hw, happ, hlen⟩ := write_of_accepting s text
  unfold writeLine
  rw [hw, andThen_ok, write_lineFeed_of_accepting held sent hlen, happ]

end LineBuffer

end Refal.Disk
