import VirtualThing.Storage.World

namespace VirtualThing

namespace Sto

-- `p` returns with the open handles it started with.
def KeepsHandles {α : Type} (p : Sto α) : Prop :=
  ∀ w, (p.run w).2.handles = w.handles

-- `p`, started with `fd` as the innermost open handle, returns with that handle closed and the
-- others as they were.
def ClosesHandle (fd : Int) {α : Type} (p : Sto α) : Prop :=
  ∀ w f hs, w.handles = (fd, f) :: hs → (p.run w).2.handles = hs

variable {α β : Type} {fd : Int} {f g k : String} {p q : Sto α} {r : α → Sto β}

namespace KeepsHandles

theorem of_pure {a : α} : KeepsHandles (pure a : Sto α) :=
  fun _ => rfl

theorem bind (hp : KeepsHandles p) (hr : ∀ a, KeepsHandles (r a)) : KeepsHandles (p >>= r) := by
  intro w
  simp only [StateT.run_bind]
  exact (hr _ _).trans (hp w)

theorem ite {c : Prop} [Decidable c] (hp : KeepsHandles p) (hq : KeepsHandles q) :
    KeepsHandles (if c then p else q) := by
  split <;> assumption

theorem storeOf : KeepsHandles (VirtualThing.storeOf fd) :=
  fun _ => rfl

theorem write {v : Value} : KeepsHandles (storageWriteKey fd g k v) := by
  intro w
  simp only [storageWriteKey_run]
  split
  · rfl
  · split <;> rfl

theorem getDataItemGroups {dataItemGroup : String → Bool} :
    KeepsHandles (VirtualThing.getDataItemGroups dataItemGroup fd) := by
  intro w
  simp only [StateT.run, VirtualThing.getDataItemGroups]
  split
  · rfl
  · split <;> rfl

theorem bracket {x : Int → α} {k : Int → Sto α} (hk : ∀ fd, ClosesHandle fd (k fd)) :
    KeepsHandles (storageOpen f >>= fun fd => if fd < 0 then pure (x fd) else k fd) := by
  intro w
  rw [storageOpen_guard_run]
  split
  · rfl
  · exact hk _ _ f w.handles rfl

end KeepsHandles

namespace ClosesHandle

theorem close : ClosesHandle fd (storageClose fd) := by
  intro w f hs h
  simp [h]

theorem bind_keeps (hp : KeepsHandles p) (hr : ∀ a, ClosesHandle fd (r a)) : ClosesHandle fd (p >>= r) := by
  intro w f hs h
  simp only [StateT.run_bind]
  exact hr _ _ f hs ((hp w).trans h)

theorem bind_closes (hp : ClosesHandle fd p) (hr : ∀ a, KeepsHandles (r a)) : ClosesHandle fd (p >>= r) := by
  intro w f hs h
  simp only [StateT.run_bind]
  exact (hr _ _).trans (hp w f hs h)

theorem ite {c : Prop} [Decidable c] (hp : ClosesHandle fd p) (hq : ClosesHandle fd q) :
    ClosesHandle fd (if c then p else q) := by
  split <;> assumption

theorem close_pure {a : α} : ClosesHandle fd (storageClose fd >>= fun _ => pure a) :=
  .bind_closes .close fun _ => .of_pure

end ClosesHandle

end Sto

end VirtualThing
