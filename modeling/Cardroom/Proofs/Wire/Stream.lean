import Cardroom.Proofs.Wire.Reading

/-!
# Streams of frames

A peer sends frame after frame, and something else may get between two of them. `readTimes_stream`
says that a reader that stays within its budget gets exactly the frames that were sent, however the
stream is cut into pieces: each reading ends where the frame ends, and after the last one the peer
is gone.
-/

namespace Cardroom.Frame

/-- A frame as it is sent, behind bytes that are no part of any frame. -/
structure Block where
  garbage : List UInt8 := []
  frame : Frame

/-- What a reader with the given budget can skip and what can be sent. -/
structure Block.IsReadable (budget : Nat) (block : Block) : Prop where
  within : block.garbage.length < budget
  clean : ¬ startMark <:+: block.garbage
  fits : block.frame.payload.utf8ByteSize ≤ maxPayload

def stream (blocks : List Block) : List UInt8 :=
  blocks.flatMap fun block => block.garbage ++ block.frame.wireBytes

/-- What a reader gets that reads so often, and the source that is left. -/
def readTimes (budget : Nat) : Nat → Source → List (Except WireError Frame) × Source
  | 0, source => ([], source)
  | count + 1, source =>
      let (result, rest) := read budget source
      let (results, rest) := readTimes budget count rest
      (result :: results, rest)

theorem readTimes_succ_fst (budget count : Nat) (source : Source) :
    (readTimes budget (count + 1) source).1 =
      (readTimes budget count source).1 ++ [(read budget (readTimes budget count source).2).1] := by
  induction count generalizing source with
  | zero =>
      rfl
  | succ count inductionHypothesis =>
      have behind := inductionHypothesis (read budget source).2
      rw [readTimes]
      simp only [behind]
      rfl

theorem readTimes_eq {budget : Nat} {blocks : List Block}
    (readable : ∀ block ∈ blocks, block.IsReadable budget) {later : List UInt8}
    {fault : Option Fault} {source : Source} (holds : source.Holds (stream blocks ++ later) fault) :
    ∃ rest,
      readTimes budget blocks.length source = (blocks.map fun block => .ok block.frame, rest) ∧
        rest.Holds later fault := by
  -- The induction is on the blocks that are read; each reading takes one off the stream.
  induction blocks generalizing source with
  | nil =>
      exact ⟨source, rfl, holds⟩
  | cons block blocks inductionHypothesis =>
      have first : block.IsReadable budget := readable block List.mem_cons_self
      have others : ∀ other ∈ blocks, other.IsReadable budget :=
        fun other member => readable other (List.mem_cons_of_mem block member)
      rw [stream, List.flatMap_cons, List.append_assoc] at holds
      obtain ⟨behind, reading, after⟩ := read_wireBytes first.within first.clean first.fits holds
      obtain ⟨rest, readings, left⟩ := inductionHypothesis others after
      refine ⟨rest, ?_, left⟩
      simp only [List.length_cons, readTimes, reading, readings, List.map_cons]

/-- Whatever pieces the stream of some blocks is cut into, a reader gets their frames in order and
then finds the peer gone, and each reading leaves the stream of the blocks that follow. -/
theorem readTimes_stream {budget : Nat} {blocks : List Block}
    (readable : ∀ block ∈ blocks, block.IsReadable budget) {chunks : List (List UInt8)}
    (sent : chunks.flatten = stream blocks) :
    let source : Source := { chunks, fault := none }
    (∀ block ∈ blocks, block.frame.encode = .ok block.frame.wireBytes) ∧
      (readTimes budget (blocks.length + 1) source).1 =
        (blocks.map fun block => .ok block.frame) ++ [.error .disconnected] ∧
      ∀ count ≤ blocks.length,
        (readTimes budget count source).2.bytes = stream (blocks.drop count) := by
  intro source
  have holds : source.Holds (stream blocks) none := ⟨sent, rfl⟩
  refine ⟨?_, ?_, ?_⟩
  · intro block member
    exact if_pos (readable block member).fits
  · rw [← List.append_nil (stream blocks)] at holds
    obtain ⟨rest, readings, left⟩ := readTimes_eq readable holds
    rw [readTimes_succ_fst, readings, read_nil budget left]
  · intro count bound
    have parted : stream blocks = stream (blocks.take count) ++ stream (blocks.drop count) := by
      rw [stream, stream, stream, ← List.flatMap_append, List.take_append_drop]
    have early : ∀ block ∈ blocks.take count, block.IsReadable budget :=
      fun block member => readable block (List.mem_of_mem_take member)
    rw [parted] at holds
    obtain ⟨rest, readings, left⟩ := readTimes_eq early holds
    rw [List.length_take_of_le bound] at readings
    rw [readings]
    exact left.bytes_eq

/-- A login comes behind the beginning of a start mark, and a text that itself looks like a frame
follows; the stream arrives in three pieces, one of them empty. -/
theorem readTimes_login_notice :
    let login : Frame := { type := .login, payload := "ann" }
    let notice : Frame := { type := .notice, payload := "JOKEQUIT0000" }
    let blocks : List Block :=
      [{ garbage := Text.bytes "JOJOK", frame := login },
        { garbage := Text.bytes "KE", frame := notice }]
    let chunks := [(stream blocks).take 7, [], (stream blocks).drop 7]
    (∀ block ∈ blocks, block.IsReadable 6) ∧ chunks.flatten = stream blocks ∧
      (readTimes 6 3 { chunks, fault := none }).1 =
        [.ok login, .ok notice, .error .disconnected] ∧
      (readTimes 6 1 { chunks, fault := none }).2.bytes =
        Text.bytes "KEJOKENOTI0012JOKEQUIT0000" := by
  intro login notice blocks chunks
  have readable : ∀ block ∈ blocks, block.IsReadable 6 := by
    intro block member
    rcases List.mem_pair.1 member with rfl | rfl
    · exact ⟨by decide, by decide, by decide⟩
    · exact ⟨by decide, by decide, by decide⟩
  have sent : chunks.flatten = stream blocks := by
    simp only [chunks, List.flatten_cons, List.flatten_nil, List.nil_append, List.append_nil,
      List.take_append_drop]
  obtain ⟨_, readings, left⟩ := readTimes_stream readable sent
  have second : stream (blocks.drop 1) = Text.bytes "KEJOKENOTI0012JOKEQUIT0000" := by
    decide
  exact ⟨readable, sent, readings, (left 1 (by decide)).trans second⟩

end Cardroom.Frame
