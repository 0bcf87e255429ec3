import VirtualThing.Properties.Theorems.Boot
import VirtualThing.Properties.Theorems.CreateDevice

namespace VirtualThing

-- `thing` with the fields the checks of the Thing group set taken from `t`.
def Thing.withDriver (thing t : Thing) : Thing :=
  { thing with
    name := t.name, driverUrl := t.driverUrl, protocolType := t.protocolType, driverNameType := t.driverNameType,
    driverLogin := t.driverLogin, driverPassword := t.driverPassword, driverSecurity := t.driverSecurity,
    driverId := t.driverId, endiannessType := t.endiannessType }

-- What a device source that failed leaves in `t`, started from `thing`: the setters store each field
-- as soon as it is checked, so the fields of the Thing group may differ, and the registry holds the
-- items of a prefix of the data-item groups, each of which loads, in front of the items it started
-- with; every other field, the count included, is as it was.
structure DeviceFailed (P : Platform) (u : String → DataPropsLocals) (thing : Thing) (s : Store) (t : Thing) :
    Prop where
  fields : t = { thing.withDriver t with dataItems := t.dataItems }
  dataItems : ∃ gs, gs <+: s.groups.filter P.dataItemGroup ∧ (∀ g ∈ gs, (groupItem P u s g).isSome) ∧
    t.dataItems = (gs.filterMap (groupItem P u s)).reverse ++ thing.dataItems

section Setters

variable {P : Platform} {u : Uninit} {thing t t₁ : Thing} {s : Store}

end Setters

namespace DeviceFailed

variable {P : Platform} {v : String → DataPropsLocals} {thing t t₁ : Thing} {s : Store}

theorem refl : DeviceFailed P v thing s thing :=
  ⟨rfl, [], List.nil_prefix, by simp, by simp⟩

end DeviceFailed

section Loop

variable {P : Platform} {v : String → DataPropsLocals} {s : Store} {thing : Thing}

end Loop

section Sources

variable {P : Platform} {u : Uninit} {thing : Thing} {f : String} {w : World}

end Sources

end VirtualThing
