import VirtualThing.Storage.World

namespace VirtualThing

-- `w'` differs from `w` at most in the keys `ks` of group `g` of file `f`: the other files, the
-- groups of `f` and the open handles are those of `w`.
structure World.Touches (f g : String) (ks : List String) (w w' : World) : Prop where
  files : ∀ f', f' ≠ f → w'.files f' = w.files f'
  groups : (w'.files f).groups = (w.files f).groups
  get : ∀ g' k, (w'.files f).get g' k ≠ (w.files f).get g' k → g' = g ∧ k ∈ ks
  handles : w'.handles = w.handles

namespace World.Touches

variable {f g : String} {ks ks' : List String} {w w₁ w₂ w₃ : World}

theorem refl (w : World) : w.Touches f g ks w :=
  ⟨fun _ _ => rfl, rfl, fun _ _ h => absurd rfl h, rfl⟩

theorem trans (h₁ : w₁.Touches f g ks w₂) (h₂ : w₂.Touches f g ks w₃) : w₁.Touches f g ks w₃ where
  files f' hf := (h₂.files f' hf).trans (h₁.files f' hf)
  groups := h₂.groups.trans h₁.groups
  get g' k h := by
    by_cases h' : (w₂.files f).get g' k = (w₁.files f).get g' k
    · exact h₂.get g' k (h' ▸ h)
    · exact h₁.get g' k h'
  handles := h₂.handles.trans h₁.handles

theorem attempt {c : Call} : w.Touches f g ks (w.attempt c) :=
  ⟨fun _ _ => rfl, rfl, fun _ _ h => absurd rfl h, rfl⟩

theorem mono (h : w₁.Touches f g ks w₂) (hks : ks ⊆ ks') : w₁.Touches f g ks' w₂ :=
  { h with get := fun g' k hne => (h.get g' k hne).imp_right (hks ·) }

theorem fileOf_eq (h : w₁.Touches f g ks w₂) : w₂.fileOf = w₁.fileOf := by
  funext fd; simp [World.fileOf, h.handles]

end World.Touches

-- `p`, run from any world where `fd` is open on `f` and `g` is a group of `f`, changes at most the
-- keys `ks` of `g` in `f`.
def Sto.Touches (fd : Int) (f g : String) (ks : List String) {α : Type} (p : Sto α) : Prop :=
  ∀ w : World, w.fileOf fd = some f → g ∈ (w.files f).groups → w.Touches f g ks (p.run w).2

namespace Sto.Touches

variable {fd : Int} {f g k : String} {ks : List String} {α β : Type} {p q : Sto α} {r : α → Sto β}

theorem mono {ks' : List String} (hp : Sto.Touches fd f g ks p) (hks : ks ⊆ ks') : Sto.Touches fd f g ks' p :=
  fun w hf hg => (hp w hf hg).mono hks

theorem of_pure {a : α} : Sto.Touches fd f g ks (pure a : Sto α) :=
  fun w _ _ => .refl w

theorem bind (hp : Sto.Touches fd f g ks p) (hr : ∀ a, Sto.Touches fd f g ks (r a)) :
    Sto.Touches fd f g ks (p >>= r) := by
  intro w hf hg
  have h₁ := hp w hf hg
  simp only [StateT.run_bind]
  exact h₁.trans (hr _ _ (h₁.fileOf_eq ▸ hf) (h₁.groups ▸ hg))

theorem map {h : α → β} (hp : Sto.Touches fd f g ks p) : Sto.Touches fd f g ks (h <$> p) := by
  intro w hf hg
  simpa [StateT.run_map] using hp w hf hg

theorem ite {c : Prop} [Decidable c] (hp : Sto.Touches fd f g ks p) (hq : Sto.Touches fd f g ks q) :
    Sto.Touches fd f g ks (if c then p else q) := by
  split <;> assumption

theorem guard {p q : Sto Int} (hp : Sto.Touches fd f g ks p) (hq : Sto.Touches fd f g ks q) :
    Sto.Touches fd f g ks (p >>= fun rc => if rc < 0 then pure rc else (pure PUnit.unit >>= fun _ => q)) :=
  .bind hp fun _ => .ite .of_pure (.bind .of_pure fun _ => hq)

theorem write {v : Value} (hk : k ∈ ks) : Sto.Touches fd f g ks (storageWriteKey fd g k v) := by
  intro w hf hg
  rw [storageWriteKey_run_of_fileOf hf]
  split
  · exact .attempt
  · refine ⟨fun f' hf' => by simp [hf'], by simp [Store.groups_write_of_mem hg], fun g' k' h => ?_, rfl⟩
    simp only [World.written_files, Function.update_same, Store.get_write] at h
    split_ifs at h with hc
    · exact ⟨hc.1, hc.2 ▸ hk⟩
    · exact absurd rfl h

theorem remove (hk : k ∈ ks) : Sto.Touches fd f g ks (storageRemoveKey fd g k) := by
  intro w hf hg
  rw [storageRemoveKey_run_of_fileOf hf]
  refine ⟨fun f' hf' => by simp [hf'], by simp, fun g' k' h => ?_, rfl⟩
  simp only [Function.update_same, Store.get_remove] at h
  split_ifs at h with hc
  · exact ⟨hc.1, hc.2 ▸ hk⟩
  · exact absurd rfl h

theorem of_hasUnit {g' : String} : Sto.Touches fd f g ks (storageHasUnit fd g' k) :=
  fun w _ _ => .refl w

theorem of_storeOf : Sto.Touches fd f g ks (storeOf fd) :=
  fun w _ _ => .refl w

end Sto.Touches

-- `p` changes no file and keeps the failure pattern: it only opens, reads and closes.
def Sto.ReadOnly {α : Type} (p : Sto α) : Prop :=
  ∀ w, (p.run w).2.files = w.files ∧ (p.run w).2.fail = w.fail

namespace Sto.ReadOnly

variable {fd : Int} {f : String} {α β : Type} {p q : Sto α} {r : α → Sto β}

theorem of_pure {a : α} : ReadOnly (pure a : Sto α) :=
  fun _ => ⟨rfl, rfl⟩

theorem bind (hp : ReadOnly p) (hr : ∀ a, ReadOnly (r a)) : ReadOnly (p >>= r) := by
  intro w
  simp only [StateT.run_bind]
  exact ⟨(hr _ _).1.trans (hp w).1, (hr _ _).2.trans (hp w).2⟩

theorem ite {c : Prop} [Decidable c] (hp : ReadOnly p) (hq : ReadOnly q) : ReadOnly (if c then p else q) := by
  split <;> assumption

theorem storageOpen : ReadOnly (VirtualThing.storageOpen f) := by
  intro w
  simp only [storageOpen_run]
  split <;> exact ⟨rfl, rfl⟩

theorem storageClose : ReadOnly (VirtualThing.storageClose fd) :=
  fun _ => ⟨rfl, rfl⟩

theorem close_pure {a : α} : ReadOnly (VirtualThing.storageClose fd >>= fun _ => pure a) :=
  .bind storageClose fun _ => .of_pure

theorem storeOf : ReadOnly (VirtualThing.storeOf fd) :=
  fun _ => ⟨rfl, rfl⟩

theorem getDataItemGroups {dataItemGroup : String → Bool} :
    ReadOnly (VirtualThing.getDataItemGroups dataItemGroup fd) := by
  intro w
  simp only [StateT.run, VirtualThing.getDataItemGroups]
  split
  · exact ⟨rfl, rfl⟩
  · split <;> exact ⟨rfl, rfl⟩

end Sto.ReadOnly

end VirtualThing
