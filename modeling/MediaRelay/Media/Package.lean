import MediaRelay.Media.Frame
import MediaRelay.Media.Ordinal

/-!
# Packages and their pool

A package carries one payload through the relay in a buffer that is used again. The pool keeps
idle packages, the last one returned first; it clears what a package says but not its buffer, and
`Package.payload` shows no more than was last put in. A package that several deliveries share
returns when the last of them lets go of it.
-/

namespace MediaRelay

structure Package where
  /-- The buffer, of which the first `length` bytes count. -/
  buffer : Bytes
  length : Nat := 0
  /-- Whether the payload came in a frame rather than a datagram. -/
  interleaved : Bool := false
  /-- The channel number of a frame, the index of the half for a datagram. -/
  channel : UInt8 := 0
  /-- The medium that the payload belongs to, as its producer counts them. -/
  order : Ordinal := 0
  deriving DecidableEq, Repr

namespace Package

/-- A package with a new buffer. -/
def fresh : Package := ⟨List.replicate maxPayload 0, 0, false, 0, 0⟩

/-- What is left behind where a package was taken away: it has no buffer. -/
def placeholder : Package := ⟨[], 0, false, 0, 0⟩

def payload (package : Package) : Bytes := package.buffer.take package.length

def isEmpty (package : Package) : Bool := package.length = 0

/-- States how many bytes of the buffer count, at most all of them. -/
def setLength (package : Package) (length : Nat) : Package :=
  { package with length := min length package.buffer.length }

/-- Overwrites the front of the buffer, as far as it reaches; the length stays. -/
def write (package : Package) (bytes : Bytes) : Package :=
  let kept := bytes.take package.buffer.length
  { package with buffer := kept ++ package.buffer.drop kept.length }

/-- Puts a payload into the package. -/
def fill (package : Package) (payload : Bytes) : Package :=
  (package.write payload).setLength payload.length

/-- Forgets all but the buffer. -/
def clear (package : Package) : Package := ⟨package.buffer, 0, false, 0, 0⟩

theorem length_payload_le (package : Package) :
    package.payload.length ≤ package.buffer.length :=
  List.length_take_le' package.length package.buffer

@[simp] theorem length_buffer_write (package : Package) (bytes : Bytes) :
    (package.write bytes).buffer.length = package.buffer.length := by
  simp only [write, List.length_append, List.length_drop, List.length_take]
  omega

/-- A payload that fits is what the package then holds, whatever the buffer held before. -/
theorem payload_fill {package : Package} {bytes : Bytes}
    (fits : bytes.length ≤ package.buffer.length) : (package.fill bytes).payload = bytes := by
  simp [fill, payload, setLength, write, List.take_of_length_le fits]

end Package

/-- Idle packages, the one returned last first. -/
structure PackagePool where
  capacity : Nat
  free : List Package := []
  deriving DecidableEq, Repr

namespace PackagePool

/-- Takes an idle package, or a fresh one if none is idle. -/
def acquire (pool : PackagePool) : Package × PackagePool :=
  match pool.free with
  | [] => (Package.fresh, pool)
  | package :: free => (package, { pool with free := free })

/-- Returns a package; one that does not fit is dropped. -/
def release (pool : PackagePool) (package : Package) : PackagePool :=
  if pool.free.length < pool.capacity then
    { pool with free := package.clear :: pool.free }
  else
    pool

/-- How many packages are idle. -/
def idle (pool : PackagePool) : Nat := pool.free.length

theorem idle_release_le {pool : PackagePool} (package : Package)
    (within : pool.idle ≤ pool.capacity) : (pool.release package).idle ≤ pool.capacity := by
  unfold release
  split
  · rename_i room
    simpa [idle, Nat.succ_le_iff] using room
  · exact within

end PackagePool

/-- A package with the number of handles on it. -/
structure SharedPackage where
  package : Package
  handles : Nat
  deriving DecidableEq, Repr

namespace SharedPackage

/-- Shares a package through a first handle. -/
def ofPackage (package : Package) : SharedPackage := ⟨package, 1⟩

/-- Adds a handle. -/
def clone (shared : SharedPackage) : SharedPackage :=
  { shared with handles := shared.handles + 1 }

/-- Lets go of a handle; with the last one the package returns to the pool. -/
def drop (shared : SharedPackage) (pool : PackagePool) : SharedPackage × PackagePool :=
  match shared.handles with
  | 0 => (shared, pool)
  | 1 => (⟨.placeholder, 0⟩, pool.release shared.package)
  | handles + 2 => (⟨shared.package, handles + 1⟩, pool)

end SharedPackage

end MediaRelay
