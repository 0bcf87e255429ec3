import VirtualThing.Storage.World

namespace VirtualThing

namespace Sto

-- `p`, run from a world where `fd` is open on `f`, either returns a negative code or has changed
-- the files only by applying `E` to `f`, and kept the handles.
def Effect (fd : Int) (f : String) (E : Store → Store) (p : Sto Int) : Prop :=
  ∀ w, w.fileOf fd = some f → ¬(p.run w).1 < 0 →
    (p.run w).2.files = Function.update w.files f (E (w.files f)) ∧ (p.run w).2.handles = w.handles

namespace Effect

variable {fd : Int} {f g k : String} {E E' : Store → Store} {p q : Sto Int}

theorem of_pure {rc : Int} : Effect fd f id (pure rc) :=
  fun w _ _ => ⟨(Function.update_eq_self f w.files).symm, rfl⟩

theorem write {v : Value} : Effect fd f (·.write g k v) (storageWriteKey fd g k v) := by
  intro w hf h
  rw [storageWriteKey_run_of_fileOf hf] at h ⊢
  by_cases hw : w.fails (.write f g k v)
  · simp [hw, EINVAL] at h
  · simp only [hw, Bool.false_eq_true, if_false]
    exact ⟨rfl, rfl⟩

theorem ite {c : Prop} [Decidable c] (hp : Effect fd f E p) (hq : Effect fd f E' q) :
    Effect fd f (fun s => if c then E s else E' s) (if c then p else q) := by
  split <;> simp [*]

theorem guard (hp : Effect fd f E p) (hq : Effect fd f E' q) :
    Effect fd f (fun s => E' (E s)) (p >>= fun rc => if rc < 0 then pure rc else (pure PUnit.unit >>= fun _ => q)) := by
  intro w hf h
  rcases hr : p.run w with ⟨rc, w₁⟩
  have hp' := hp w hf
  rw [hr] at hp'
  dsimp only at hp'
  simp only [StateT.run_bind, hr, Id.bind_eq] at h ⊢
  by_cases hrc : rc < 0
  · simp [hrc] at h
  obtain ⟨hfiles, hhandles⟩ := hp' hrc
  have hf' : w₁.fileOf fd = some f := by simpa [World.fileOf, hhandles] using hf
  simp only [hrc, if_false, pure_bind] at h ⊢
  obtain ⟨hfiles', hhandles'⟩ := hq _ hf' h
  refine ⟨?_, hhandles'.trans hhandles⟩
  rw [hfiles', hfiles]
  simp

end Effect

end Sto

end VirtualThing
