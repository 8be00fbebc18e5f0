import FixtureKit.FileSystem.Buffer
import FixtureKit.FileSystem.Operations
import FixtureKit.Generator

/-!
# Files of Random Bytes

A file is filled with the replies of a generator. The requests have a fixed length, apart from a
shorter one at the end; the replies go through a buffer, so that a device without room is noticed
when the buffer is emptied and not before.

## Conventions

* The file is opened first. When that fails, nothing is asked of the generator.
* A request is on record even if its reply could not be written.

## Main results

* `writeRandomFile_of_error` — a file that cannot be opened leaves generator and files alone.
-/

namespace FixtureKit

/-- The failure to fill a file. -/
structure FillError where
  path : String
  cause : IoError
  deriving DecidableEq

/-- The text of an error, without its cause. -/
def FillError.message (e : FillError) : String :=
  "could not write random bytes to " ++ e.path

namespace RandomFile

/-- The longest request to a generator. -/
def requestLimit : Nat := 64 * 1024

/-- What has been drawn from a generator for one file. -/
structure Draw (σ : Type) where
  /-- The replies, one after the other. -/
  content : ByteArray
  state : σ
  /-- The lengths of the requests, in order. -/
  requests : List Nat
  /-- Whether all that was drawn could be written. -/
  written : Bool

/-- Draws `remaining` bytes in requests of at most `limit` bytes and writes them, for as long as
there is room or the buffer takes them. -/
def draw {σ : Type} (generator : Generator σ) (room : Bool) (limit remaining waiting : Nat)
    (state : σ) (content : ByteArray) (requests : List Nat) : Draw σ :=
  if remaining = 0 ∨ limit = 0 then
    ⟨content, state, requests.reverse, room || waiting == 0⟩
  else
    let count := min remaining limit
    let (reply, state) := generator.reply state count
    if room || !Buffer.passesOn waiting count then
      draw generator room limit (remaining - count) (Buffer.waitingAfter waiting count) state
        (content ++ reply) (count :: requests)
    else
      ⟨content, state, (count :: requests).reverse, false⟩
termination_by remaining
decreasing_by omega

end RandomFile

/-- What filling a file leads to. -/
structure Filled (σ : Type) where
  result : Except FillError Unit
  files : FileSystem
  /-- The state of the generator afterwards. -/
  state : σ
  /-- The lengths of the requests to the generator, in order. -/
  requests : List Nat

/-- Fills the file at a path with `size` bytes of a generator, in place of what it held. -/
def writeRandomFile {σ : Type} (generator : Generator σ) (state : σ) (fs : FileSystem)
    (path : String) (size : Nat) : Filled σ :=
  match fs.openForWriting path with
  | .error cause => ⟨.error ⟨path, cause⟩, fs, state, []⟩
  | .ok (sink, opened) =>
    let drawn := RandomFile.draw generator (sink ≠ .fullDevice) (min RandomFile.requestLimit size)
      size 0 state ByteArray.empty []
    match sink with
    | .file location =>
      ⟨.ok (), opened.put location (.file drawn.content), drawn.state, drawn.requests⟩
    | .fullDevice =>
      -- With nothing to write it is the final synchronisation that a device refuses.
      let cause := if drawn.written then .invalidArgument else .storageFull
      ⟨.error ⟨path, cause⟩, opened, drawn.state, drawn.requests⟩

/-- A file that cannot be opened leaves generator and files alone. -/
theorem writeRandomFile_of_error {σ : Type} {generator : Generator σ} {state : σ}
    {fs : FileSystem} {path : String} {size : Nat} {cause : IoError}
    (h : fs.openForWriting path = .error cause) :
    writeRandomFile generator state fs path size = ⟨.error ⟨path, cause⟩, fs, state, []⟩ := by
  rw [writeRandomFile, h]

end FixtureKit
