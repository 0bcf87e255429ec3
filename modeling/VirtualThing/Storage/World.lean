import VirtualThing.Storage.Store

namespace VirtualThing

def EINVAL : Int := 22
def ENOENT : Int := 2
def EBADF : Int := 9

-- The calls of the storage collaborator that can fail independently of the store's content.
inductive Call
  | open (file : String)
  | write (file group key : String) (v : Value)
  | groups (file : String)
  deriving DecidableEq, Repr

-- The storage collaborator's state: the persisted configuration sources by file name, the open
-- handles (innermost first), the failure pattern, which decides each fallible call from its
-- position and the call itself, and the record of the fallible calls made so far.
structure World where
  files : String → Store
  handles : List (Int × String)
  nextFd : Nat
  fail : Nat → Call → Bool
  log : List (Call × Bool)

abbrev Sto := StateM World

namespace World

-- A world where every file holds what `files` says, no handle is open and no call fails.
def reliable (files : String → Store) : World :=
  ⟨files, [], 0, fun _ _ => false, []⟩

def fileOf (w : World) (fd : Int) : Option String :=
  w.handles.lookup fd

def store (w : World) (fd : Int) : Store :=
  (w.fileOf fd).elim .empty w.files

def fails (w : World) (c : Call) : Bool :=
  w.fail w.log.length c

def attempt (w : World) (c : Call) : World :=
  { w with log := (c, !w.fails c) :: w.log }

-- The world after a successful `storage_open f`: the new handle is the innermost one.
def opened (w : World) (f : String) : World :=
  { w.attempt (.open f) with handles := (w.nextFd, f) :: w.handles, nextFd := w.nextFd + 1 }

-- The world after a successful write of `v` under `k` in group `g` of file `f`.
def written (w : World) (f g k : String) (v : Value) : World :=
  { w.attempt (.write f g k v) with files := Function.update w.files f ((w.files f).write g k v) }

variable {w : World} {c : Call} {f g k : String} {v : Value}

@[simp] theorem written_files : (w.written f g k v).files = Function.update w.files f ((w.files f).write g k v) :=
  rfl
@[simp] theorem written_handles : (w.written f g k v).handles = w.handles := rfl
@[simp] theorem written_fail : (w.written f g k v).fail = w.fail := rfl
@[simp] theorem written_fileOf : (w.written f g k v).fileOf = w.fileOf := rfl
@[simp] theorem written_log : (w.written f g k v).log = (.write f g k v, !w.fails (.write f g k v)) :: w.log := rfl

@[simp] theorem opened_files : (w.opened f).files = w.files := rfl
@[simp] theorem opened_handles : (w.opened f).handles = ((w.nextFd : Int), f) :: w.handles := rfl
@[simp] theorem opened_fail : (w.opened f).fail = w.fail := rfl
@[simp] theorem opened_log : (w.opened f).log = (.open f, !w.fails (.open f)) :: w.log := rfl

@[simp] theorem fileOf_opened_self : (w.opened f).fileOf w.nextFd = some f := by
  simp [fileOf]

@[simp] theorem attempt_files : (w.attempt c).files = w.files := rfl
@[simp] theorem attempt_handles : (w.attempt c).handles = w.handles := rfl
@[simp] theorem attempt_fileOf : (w.attempt c).fileOf = w.fileOf := rfl
@[simp] theorem attempt_store : (w.attempt c).store = w.store := rfl
@[simp] theorem attempt_fail : (w.attempt c).fail = w.fail := rfl
@[simp] theorem attempt_log : (w.attempt c).log = (c, !w.fails c) :: w.log := rfl

theorem store_of_fileOf {fd : Int} (h : w.fileOf fd = some f) : w.store fd = w.files f := by
  simp [store, h]

@[simp] theorem store_opened_self : (w.opened f).store w.nextFd = w.files f :=
  store_of_fileOf fileOf_opened_self

end World

def storageOpen (f : String) : Sto Int := fun w =>
  if w.fails (.open f) then (-ENOENT, w.attempt (.open f)) else (w.nextFd, w.opened f)

def storageClose (fd : Int) : Sto Unit := fun w =>
  ((), { w with handles := w.handles.eraseP (·.1 == fd) })

-- The store a handle reads from; reading never changes the world.
def storeOf (fd : Int) : Sto Store := fun w =>
  (w.store fd, w)

def storageWriteKey (fd : Int) (g k : String) (v : Value) : Sto Int := fun w =>
  match w.fileOf fd with
  | none => (-EBADF, w)
  | some f =>
    if w.fails (.write f g k v) then (-EINVAL, w.attempt (.write f g k v)) else (0, w.written f g k v)

def storageWriteKeyInt (fd : Int) (g k : String) (v : Int) : Sto Int :=
  storageWriteKey fd g k (.int v)

def storageWriteKeyUint (fd : Int) (g k : String) (v : Nat) : Sto Int :=
  storageWriteKey fd g k (.uint v)

def storageWriteKeyInt64 (fd : Int) (g k : String) (v : Int) : Sto Int :=
  storageWriteKey fd g k (.int64 v)

def storageWriteKeyUint64 (fd : Int) (g k : String) (v : Nat) : Sto Int :=
  storageWriteKey fd g k (.uint64 v)

def storageWriteKeyFloat (fd : Int) (g k : String) (v : UInt32) : Sto Int :=
  storageWriteKey fd g k (.float v)

def storageWriteKeyBool (fd : Int) (g k : String) (v : Bool) : Sto Int :=
  storageWriteKey fd g k (.bool v)

def storageWriteKeyString (fd : Int) (g k : String) (v : String) : Sto Int :=
  storageWriteKey fd g k (.string v)

def storageRemoveKey (fd : Int) (g k : String) : Sto Unit := fun w =>
  match w.fileOf fd with
  | none => ((), w)
  | some f => ((), { w with files := Function.update w.files f ((w.files f).remove g k) })

def storageHasUnit (fd : Int) (g k : String) : Sto Bool := fun w =>
  ((w.store fd).hasKey g k, w)

-- `get_data_item_groups` lists, in file order, the groups that `dataItemGroup` accepts; `none`
-- stands for the NULL it returns when the enumeration fails.
def getDataItemGroups (dataItemGroup : String → Bool) (fd : Int) : Sto (Option (List String)) :=
  fun w =>
    match w.fileOf fd with
    | none => (none, w)
    | some f =>
      if w.fails (.groups f) then (none, w.attempt (.groups f))
      else (some ((w.files f).groups.filter dataItemGroup), w.attempt (.groups f))

section Run

variable {w : World} {fd : Int} {f g k : String} {v : Value}

@[simp] theorem storageOpen_run : (storageOpen f).run w =
    if w.fails (.open f) then (-ENOENT, w.attempt (.open f)) else (w.nextFd, w.opened f) :=
  rfl

@[simp] theorem storageClose_run :
    (storageClose fd).run w = ((), { w with handles := w.handles.eraseP (·.1 == fd) }) :=
  rfl

@[simp] theorem storeOf_run : (storeOf fd).run w = (w.store fd, w) :=
  rfl

@[simp] theorem storageHasUnit_run : (storageHasUnit fd g k).run w = ((w.store fd).hasKey g k, w) :=
  rfl

-- The guard every operation puts after `storage_open`: a negative handle is returned at once.
theorem storageOpen_guard_run {α : Type} {k : Int → Sto α} {x : Int → α} :
    (storageOpen f >>= fun fd => if fd < 0 then pure (x fd) else k fd).run w =
      if w.fails (.open f) then (x (-ENOENT), w.attempt (.open f)) else (k w.nextFd).run (w.opened f) := by
  simp only [StateT.run_bind, storageOpen_run]
  split <;> simp [ENOENT, show ¬((w.nextFd : Int) < 0) by omega]

@[simp] theorem storageWriteKey_run : (storageWriteKey fd g k v).run w =
    match w.fileOf fd with
    | none => (-EBADF, w)
    | some f => if w.fails (.write f g k v) then (-EINVAL, w.attempt (.write f g k v)) else (0, w.written f g k v) :=
  rfl

theorem storageWriteKey_run_of_fileOf (h : w.fileOf fd = some f) : (storageWriteKey fd g k v).run w =
    if w.fails (.write f g k v) then (-EINVAL, w.attempt (.write f g k v)) else (0, w.written f g k v) := by
  simp [h]

theorem storageRemoveKey_run_of_fileOf (h : w.fileOf fd = some f) : (storageRemoveKey fd g k).run w =
    ((), { w with files := Function.update w.files f ((w.files f).remove g k) }) := by
  simp [storageRemoveKey, StateT.run, h]

theorem getDataItemGroups_run_of_fileOf {p : String → Bool} (h : w.fileOf fd = some f) :
    (getDataItemGroups p fd).run w =
      if w.fails (.groups f) then (none, w.attempt (.groups f))
      else (some ((w.files f).groups.filter p), w.attempt (.groups f)) := by
  simp [getDataItemGroups, StateT.run, h]

end Run
end VirtualThing
