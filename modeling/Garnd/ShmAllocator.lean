import Garnd.Errors
import Mathlib.Data.List.AList
import Mathlib.Algebra.Group.Nat.Defs

/- `shm_allocator.rs`: named resources placed on shared pages by a bump pointer.
   The results of the system calls and of the placement constructor are
   arguments. `usize` is 64 bits wide and its additions wrap, as in a release
   build. -/
namespace Garnd

/-- `a + b` on `usize`. -/
def usizeAdd (a b : ℕ) : ℕ := (a + b) % 2 ^ 64

/-- What the allocator reads off a type `T: ShmCompatible`. -/
structure ShmType where
  uuid : ℕ
  typeName : String
  size : ℕ
  align : ℕ
  align_pow : ∃ k, align = 2 ^ k

/-- A mutex of 40 bytes that is aligned to 8, for concrete runs. -/
def ShmType.pthreadMutex : ShmType := ⟨1, "PthreadMutex", 40, 8, 3, rfl⟩

structure ClientResourceLocation where
  page : ℕ
  offset : ℕ
  fd : RawFd
  deriving DecidableEq, Repr

/-- The destructor is a closure that drops the pointer it is given as a value of
the type the resource was constructed with; it is kept as that type. -/
structure ResourceMetadata where
  typeId : ℕ
  page : ℕ
  offset : ℕ
  destructor : ShmType

structure Page where
  fd : RawFd
  mem : ℕ
  deriving DecidableEq, Repr

structure ShmAllocator where
  resources : AList (fun _ : String => ResourceMetadata)
  pageSize : ℕ
  pages : List Page
  freePtr : ℕ

namespace ShmAllocator

/-- `ShmAllocator::new` on what `sysconf(PAGE_SIZE)` returned. -/
def new (sysconf : Except Errno (Option Int64)) : Outcome ShmAllocator :=
  match sysconf with
  | .ok none => .err (.runtime .getPageSizeFailed)
  | .ok (some res) =>
    if res.toInt = 0 then .err (.runtime .getPageSizeFailed)
    else if res.toInt < 0 then .panic
    else .ok { resources := ∅, pageSize := res.toInt.toNat, pages := [], freePtr := 0 }
  | .error e => .err (.sys .sysconf e)

/-- What the system calls of one `create_new_page` return, in their order. -/
structure PageCalls where
  memfdCreate : Except Errno RawFd
  ftruncate : Except Errno Unit
  addSeals : Except Errno Unit
  mmap : Except Errno ℕ

/-- `create_new_page`. Every failure comes before the allocator is touched. -/
def createNewPage (self : ShmAllocator) (os : PageCalls) : Except DetailedError ShmAllocator :=
  match os.memfdCreate with
  | .error e => .error (.sys .memfdCreate e)
  | .ok shmFd =>
    if 2 ^ 63 ≤ self.pageSize then .error .intConversion else
    match os.ftruncate with
    | .error e => .error (.sys .ftruncate e)
    | .ok () =>
      match os.addSeals with
      | .error e => .error (.sys .addSeals e)
      | .ok () =>
        match os.mmap with
        | .error e => .error (.sys .mmap e)
        | .ok mem => .ok { self with freePtr := 0, pages := self.pages ++ [⟨shmFd, mem⟩] }

/-- `get_aligned_free_pointer`. -/
def getAlignedFreePointer (self : ShmAllocator) (size align : ℕ) : Option ℕ :=
  let alignedFreePtr :=
    if self.freePtr % align = 0 then self.freePtr
    else usizeAdd self.freePtr (align - self.freePtr % align)
  if usizeAdd alignedFreePtr size > self.pageSize then none else some alignedFreePtr

/-- The slot whose address a placement constructor is handed. -/
structure Slot where
  page : ℕ
  offset : ℕ
  size : ℕ
  deriving DecidableEq, Repr

/-- What `construct_in_shm` leaves behind: its result, the slot it handed to the
placement constructor (`none` where it did not get there), and the allocator. -/
structure Constructed where
  result : Outcome ClientResourceLocation
  slot : Option Slot
  self : ShmAllocator

/-- What the outside answers during one `construct_in_shm`: the calls at the two
places that create a page, and the placement constructor. -/
structure ConstructCalls where
  firstPage : PageCalls
  retryPage : PageCalls
  constructor : Except DetailedError Unit

/-- The end of `construct_in_shm`, from the moment the slot is known: the free
pointer is moved first, then the constructor runs, then the resource is entered. -/
def placeAt (self : ShmAllocator) (name : String) (T : ShmType) (alignedFreePtr : ℕ)
    (constructor : Except DetailedError Unit) : Constructed :=
  let self := { self with freePtr := usizeAdd alignedFreePtr T.size }
  match self.pages.getLast? with
  | none => ⟨.panic, none, self⟩
  | some last =>
    let page := self.pages.length - 1
    let slot : Slot := ⟨page, alignedFreePtr, T.size⟩
    match constructor with
    | .error e => ⟨.err e, some slot, self⟩
    | .ok () =>
      ⟨.ok ⟨page, alignedFreePtr, last.fd⟩, some slot,
        { self with resources := self.resources.insert name ⟨T.uuid, page, alignedFreePtr, T⟩ }⟩

/-- `construct_in_shm` once there is a page: one try on the last page, and one
more on a fresh page. -/
def allocate (self : ShmAllocator) (name : String) (T : ShmType) (os : ConstructCalls) :
    Constructed :=
  match self.getAlignedFreePointer T.size T.align with
  | some alignedFreePtr => self.placeAt name T alignedFreePtr os.constructor
  | none =>
    match self.createNewPage os.retryPage with
    | .error e => ⟨.err e, none, self⟩
    | .ok self =>
      match self.getAlignedFreePointer T.size T.align with
      | some alignedFreePtr => self.placeAt name T alignedFreePtr os.constructor
      | none => ⟨.panic, none, self⟩

/-- `construct_in_shm`. -/
def constructInShm (self : ShmAllocator) (name : String) (T : ShmType) (os : ConstructCalls) :
    Constructed :=
  if name ∈ self.resources then
    ⟨.err (.runtime (.resourceNameAlreadyInUse name)), none, self⟩
  else if T.size > self.pageSize then
    ⟨.err (.runtime (.resourceTooLargeForPage self.pageSize T.size)), none, self⟩
  else if T.align > self.pageSize then
    ⟨.err (.runtime (.resourceAlignmentLargerThanPage self.pageSize T.align)), none, self⟩
  else if self.pages.isEmpty then
    match self.createNewPage os.firstPage with
    | .error e => ⟨.err e, none, self⟩
    | .ok self => self.allocate name T os
  else self.allocate name T os

/-- `find_resource`. -/
def findResource (self : ShmAllocator) (name : String) (T : ShmType) :
    Outcome (Option ClientResourceLocation) :=
  match self.resources.lookup name with
  | none => .ok none
  | some metadata =>
    if metadata.typeId ≠ T.uuid then
      .err (.runtime (.resourceTypeMismatch T.typeName "<unavailable at runtime>"))
    else
      match self.pages[metadata.page]? with
      | none => .panic
      | some page => .ok (some ⟨metadata.page, metadata.offset, page.fd⟩)

/-- One `construct_in_shm` call with everything the outside answers to it. -/
structure ConstructCall where
  name : String
  T : ShmType
  os : ConstructCalls

/-- The allocator after one call, whatever the call returned. -/
def step (self : ShmAllocator) (c : ConstructCall) : Option ShmAllocator :=
  some (self.constructInShm c.name c.T c.os).self

end ShmAllocator

end Garnd
