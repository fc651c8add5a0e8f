import Shuffle.Pull.Chunk

/-!
# Sending slices

The octets of slices go out in blocks that fit a buffer. Files may have changed since the slices
were found: the transfer ends at the first fault, and it has failed unless all announced octets
went out.

- `Transfer.run` is what the receiver gets and what the service counts.
-/

namespace Shuffle

/-- Why a transfer stops early. -/
inductive TransferFault where
  | file (fault : FileFault)
  /-- The files held fewer octets than announced. -/
  | ended (sent expected : UInt64)
deriving DecidableEq, Repr

/-- The wording of a fault. -/
def TransferFault.message : TransferFault → String
  | .file fault => fault.message
  | .ended sent expected => s!"chunks ended after {sent.toNat} of {expected.toNat} bytes"

/-- A transfer that was followed to its end or its first fault. -/
structure Delivery where
  /-- The octets that came. -/
  body : Bytes
  /-- The fault that the body ends in. -/
  fault : Option TransferFault
  /-- The octets sent, if all announced ones were, else the reason why not. -/
  outcome : Except TransferFault UInt64

namespace Transfer

/-- Something that comes out of a file. -/
inductive Event where
  | block (bytes : Bytes)
  | failed (fault : FileFault)
deriving DecidableEq, Repr

/-- Cuts octets into blocks of a size. -/
def blocks (size : Nat) (bytes : Bytes) : List Bytes :=
  match bytes with
  | [] => []
  | b :: rest => (b :: rest.take (size - 1)) :: blocks size (rest.drop (size - 1))
termination_by bytes.length
decreasing_by simp only [List.length_drop, List.length_cons]; omega

/-- What comes out of one slice. -/
def events (store : FileStore) (bufferSize : Nat) (chunk : FileChunk) : List Event :=
  match store.slice chunk.path chunk.offset.toNat chunk.length.toNat with
  | .ok bytes => (blocks bufferSize bytes).map .block
  | .error fault => [.failed fault]

/-- Follows events. The outcome is decided by the block with which the announced octets are
complete, by the first fault, or by the end. -/
def follow (expected : UInt64) :
    (sent : UInt64) → (complete : Option UInt64) → List Event → Delivery
  | sent, complete, .block bytes :: rest =>
    let sent := sent + UInt64.ofNat bytes.length
    -- Once complete, a transfer stays so, whatever comes out of the files behind that.
    let complete := complete <|> if expected ≤ sent then some sent else none
    let later := follow expected sent complete rest
    { later with body := bytes ++ later.body }
  | _, some n, .failed fault :: _ => ⟨[], some (.file fault), .ok n⟩
  | _, none, .failed fault :: _ => ⟨[], some (.file fault), .error (.file fault)⟩
  | _, some n, [] => ⟨[], none, .ok n⟩
  | sent, none, [] => ⟨[], some (.ended sent expected), .error (.ended sent expected)⟩

/-- Sends slices through a buffer. -/
def run (store : FileStore) (bufferSize : Nat) (chunks : List FileChunk) : Delivery :=
  follow (FileChunk.total chunks) 0 none (chunks.flatMap (events store bufferSize))

end Transfer

end Shuffle
