import VirtualThing.Storage.World

namespace VirtualThing

-- A block of writes that returns at its first failure, run under the failure pattern `fail` from
-- log position `n`: the calls it makes, oldest first, each with its success, and whether it failed.
-- `none` is a write refused before any storage call, which returns -EINVAL at once.
def stopAtFailure (fail : Nat → Call → Bool) (n : Nat) : List (Option Call) → List (Call × Bool) × Bool
  | [] => ([], false)
  | none :: _ => ([], true)
  | some c :: cs =>
    if fail n c then ([(c, false)], true)
    else let r := stopAtFailure fail (n + 1) cs; ((c, true) :: r.1, r.2)

section StopAtFailure

variable {fail : Nat → Call → Bool} {n : Nat} {P Q : List (Option Call)}

theorem stopAtFailure_append : stopAtFailure fail n (P ++ Q) =
    if (stopAtFailure fail n P).2 then stopAtFailure fail n P
    else ((stopAtFailure fail n P).1 ++ (stopAtFailure fail (n + (stopAtFailure fail n P).1.length) Q).1,
      (stopAtFailure fail (n + (stopAtFailure fail n P).1.length) Q).2) := by
  induction P generalizing n with
  | nil => rfl
  | cons c P ih =>
    cases c with
    | none => rfl
    | some c =>
      by_cases h : fail n c
      · simp [stopAtFailure, h]
      · have e : ∀ l, stopAtFailure fail n (some c :: l) =
            ((c, true) :: (stopAtFailure fail (n + 1) l).1, (stopAtFailure fail (n + 1) l).2) := by
          simp [stopAtFailure, h]
        rw [List.cons_append, e, e, ih]
        split <;> simp [Nat.add_right_comm n 1, Nat.add_assoc]

theorem stopAtFailure_snd_eq_false_iff :
    (stopAtFailure fail n P).2 = false ↔ (∀ c, (c, false) ∉ (stopAtFailure fail n P).1) ∧ none ∉ P := by
  induction P generalizing n with
  | nil => simp [stopAtFailure]
  | cons c P ih =>
    cases c with
    | none => simp [stopAtFailure]
    | some c =>
      by_cases h : fail n c
      · simp [stopAtFailure, h]
      · simp [stopAtFailure, h, ih]

theorem stopAtFailure_no_failed_call (h : ∀ c m, some c ∈ P → fail m c = false) (c : Call) :
    (c, false) ∉ (stopAtFailure fail n P).1 := by
  induction P generalizing n with
  | nil => simp [stopAtFailure]
  | cons o P ih =>
    cases o with
    | none => simp [stopAtFailure]
    | some c' =>
      simp [stopAtFailure, h c' n (List.mem_cons_self _ _),
        ih fun c m hc => h c m (List.mem_cons_of_mem _ hc)]

end StopAtFailure

namespace Sto

-- `p`, run from a world where `fd` is open on `f`, makes the calls of `plan` up to its first failure,
-- and returns a negative code exactly when it stopped there; it keeps the handles and the failure
-- pattern.
def Attempts (fd : Int) (f : String) (plan : List (Option Call)) (p : Sto Int) : Prop :=
  ∀ w, w.fileOf fd = some f →
    (p.run w).2.log = (stopAtFailure w.fail w.log.length plan).1.reverse ++ w.log ∧
    ((p.run w).1 < 0 ↔ (stopAtFailure w.fail w.log.length plan).2 = true) ∧
    (p.run w).2.handles = w.handles ∧ (p.run w).2.fail = w.fail

namespace Attempts

variable {fd : Int} {f g k : String} {P Q : List (Option Call)} {p q : Sto Int}

theorem of_pure {rc : Int} (h : ¬rc < 0) : Attempts fd f [] (pure rc) :=
  fun _ _ => ⟨rfl, by simp [stopAtFailure, h], rfl, rfl⟩

theorem refuse : Attempts fd f [none] (pure (-EINVAL)) :=
  fun _ _ => ⟨rfl, by simp [stopAtFailure, EINVAL], rfl, rfl⟩

theorem write {v : Value} : Attempts fd f [some (.write f g k v)] (storageWriteKey fd g k v) := by
  intro w hf
  rw [storageWriteKey_run_of_fileOf hf]
  by_cases hw : w.fail w.log.length (.write f g k v) <;> simp [stopAtFailure, World.fails, hw, EINVAL]

theorem ite {c : Prop} [Decidable c] (hp : Attempts fd f P p) (hq : Attempts fd f Q q) :
    Attempts fd f (if c then P else Q) (if c then p else q) := by
  split <;> assumption

theorem guard (hp : Attempts fd f P p) (hq : Attempts fd f Q q) :
    Attempts fd f (P ++ Q) (p >>= fun rc => if rc < 0 then pure rc else (pure PUnit.unit >>= fun _ => q)) := by
  intro w hf
  rcases hr : p.run w with ⟨rc, w₁⟩
  obtain ⟨hlog, hrc, hh, hφ⟩ := hp w hf
  rw [hr] at hlog hrc hh hφ
  dsimp only at hlog hrc hh hφ
  simp only [StateT.run_bind, hr, Id.bind_eq, stopAtFailure_append]
  by_cases hs : (stopAtFailure w.fail w.log.length P).2 = true
  · simp only [hs, if_true, hrc.mpr hs]
    exact ⟨hlog, iff_of_true (hrc.mpr hs) trivial, hh, hφ⟩
  have hf₁ : w₁.fileOf fd = some f := by simpa [World.fileOf, hh] using hf
  obtain ⟨hlog', hrc', hh', hφ'⟩ := hq w₁ hf₁
  simp only [hs, Bool.false_eq_true, if_false, mt hrc.mp hs, pure_bind]
  rw [hφ, hlog, List.length_append, List.length_reverse, Nat.add_comm] at hlog' hrc'
  exact ⟨by simp [hlog'], hrc', hh'.trans hh, hφ'.trans hφ⟩

end Attempts

end Sto

end VirtualThing
