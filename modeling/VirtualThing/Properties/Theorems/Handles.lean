import VirtualThing.Storage.Handles
import VirtualThing.Properties.Credentials
import VirtualThing.Properties.Theorems.Updater

namespace VirtualThing

variable {P : Platform} {u : Uninit} {thing : Thing} {f : String} {fd : Int}

theorem setDataItems_keepsHandles {u : String → DataPropsLocals} : Sto.KeepsHandles (setDataItems P u thing fd) := by
  unfold setDataItems
  refine .bind .getDataItemGroups fun gs => ?_
  split
  · exact .bind .storeOf fun _ => .of_pure
  · exact .of_pure

theorem setThingProperties_keepsHandles : Sto.KeepsHandles (setThingProperties P u thing f) := by
  unfold setThingProperties
  dsimp only
  exact .bracket fun _ => .bind_keeps .of_pure fun _ => .bind_keeps .storeOf fun _ =>
    .ite .close_pure <| .bind_keeps .of_pure fun _ =>
    .ite .close_pure <| .bind_keeps .of_pure fun _ =>
    .ite .close_pure <| .bind_keeps .of_pure fun _ =>
    .bind_keeps setDataItems_keepsHandles fun _ => .ite .close_pure (.bind_keeps .of_pure fun _ => .close_pure)

theorem setCloudProperties_keepsHandles : Sto.KeepsHandles (setCloudProperties thing f) := by
  unfold setCloudProperties
  dsimp only
  exact .bracket fun _ => .bind_keeps .of_pure fun _ => .bind_keeps .storeOf fun _ =>
    .ite .close_pure <| .bind_keeps .of_pure fun _ =>
    .ite .close_pure (.bind_keeps .of_pure fun _ => .close_pure)

theorem setThingCredentials_keepsHandles : Sto.KeepsHandles (setThingCredentials thing f) := by
  unfold setThingCredentials
  dsimp only
  exact .bracket fun _ => .bind_keeps .of_pure fun _ => .bind_keeps .storeOf fun _ => .close_pure

theorem propertiesCreateDevice_keepsHandles {settings : DeviceSettings} :
    Sto.KeepsHandles (propertiesCreateDevice P u thing settings) := by
  unfold propertiesCreateDevice
  dsimp only
  exact .bind setThingProperties_keepsHandles fun _ => .ite .of_pure <| .bind .of_pure fun _ =>
    .bind setCloudProperties_keepsHandles fun _ => .ite .of_pure <| .bind .of_pure fun _ =>
    .bind setThingCredentials_keepsHandles fun _ => .ite .of_pure (.bind .of_pure fun _ => .of_pure)

theorem eraseThingCredential_keepsHandles {key : String} {clear : Thing → Thing} :
    Sto.KeepsHandles (eraseThingCredential key clear thing fd) := by
  unfold eraseThingCredential
  exact .bind .write fun _ => .ite .of_pure (.bind .of_pure fun _ => .of_pure)

theorem propertiesClearCredentials_keepsHandles : Sto.KeepsHandles (propertiesClearCredentials thing f) := by
  unfold propertiesClearCredentials
  dsimp only
  exact .bracket fun _ => .bind_keeps .of_pure fun _ => .bind_keeps eraseThingCredential_keepsHandles fun _ =>
    .ite .close_pure <| .bind_keeps .of_pure fun _ => .bind_keeps eraseThingCredential_keepsHandles fun _ =>
    .ite .close_pure (.bind_keeps .of_pure fun _ => .close_pure)

-- The rollback write after a failed id write is followed by the close as well.
theorem propertiesStoreCredentials_keepsHandles {id token : String} :
    Sto.KeepsHandles (propertiesStoreCredentials P f id token) := by
  unfold propertiesStoreCredentials
  dsimp only
  exact .ite .of_pure <| .bind .of_pure fun _ => .bracket fun _ => .bind_keeps .of_pure fun _ =>
    .bind_keeps .write fun _ => .ite .close_pure <| .bind_keeps .of_pure fun _ =>
    .bind_keeps .write fun _ =>
    .ite (.bind_keeps .write fun _ => .close_pure) (.bind_keeps .of_pure fun _ => .close_pure)

-- The update closes its handle whenever it returns; only the fault on a failed enumeration skips
-- the close.
theorem propertiesUpdateDataItem_keepsHandles {cmd : KnotMsgConfig} {w : World}
    (h : ((propertiesUpdateDataItem P thing f cmd).run w).1.isSome) :
    ((propertiesUpdateDataItem P thing f cmd).run w).2.handles = w.handles := by
  unfold propertiesUpdateDataItem at h ⊢
  rw [storageOpen_guard_run] at h ⊢
  by_cases ho : w.fails (.open f)
  · simp only [ho, if_true]; rfl
  have hf := World.fileOf_opened_self (w := w) (f := f)
  by_cases hgr : (w.opened f).fails (.groups f)
  · simp [ho, getDataItemGroups_run_of_fileOf hf, hgr] at h
  simp [ho, getDataItemGroups_run_of_fileOf hf, hgr]
  rw [propertiesUpdateDataItem.loop_run (w := (w.opened f).attempt (.groups f)) hf]
  split
  · simp
  · rename_i g hg
    simp only [World.attempt_files, World.opened_files] at hg
    have ht : ((w.opened f).attempt (.groups f)).Touches f g (updatedKeys cmd)
        ((updateDataItemGroup w.nextFd cmd g).run ((w.opened f).attempt (.groups f))).2 :=
      updateDataItemGroup_touches _ hf (List.mem_filter.mp (List.mem_of_find?_eq_some hg)).1
    simp [ht.handles]

theorem properties_handles_balanced (P : Platform) (u : Uninit) (thing : Thing) (settings : DeviceSettings)
    (f id token : String) (cmd : KnotMsgConfig) (w : World) :
    ((propertiesCreateDevice P u thing settings).run w).2.handles = w.handles ∧
    (((propertiesUpdateDataItem P thing f cmd).run w).1.isSome →
      ((propertiesUpdateDataItem P thing f cmd).run w).2.handles = w.handles) ∧
    ((propertiesStoreCredentials P f id token).run w).2.handles = w.handles ∧
    ((propertiesClearCredentials thing f).run w).2.handles = w.handles :=
  ⟨propertiesCreateDevice_keepsHandles w, propertiesUpdateDataItem_keepsHandles,
    propertiesStoreCredentials_keepsHandles w, propertiesClearCredentials_keepsHandles w⟩

end VirtualThing
