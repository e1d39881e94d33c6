import Mathlib.Data.List.Dedup
import SimulatorBroker.Effects.Frame
import SimulatorBroker.Safety.Readers

/-!
# Writing the host config

A host config answers for simulators: those it binds to an alias and those it
still has to retire.  What a command may do to the file, and to the names of the
simulators, is said once, as a guard; every other operation leaves both alone.
-/

namespace SimulatorBroker.Hosting

open SimulatorBroker.Effects
open SimulatorBroker.State
open SimulatorBroker.Broker
open SimulatorBroker.Safety (ReadConfig later_effect)

/-- The simulators a host config answers for. -/
def managedIds (config : HostConfig) : List SimulatorId :=
  config.simulatorIds ++ config.pendingRetirements

/-- `simctl` does not list the simulator. -/
def Absent (outside : Outside) (simulatorId : SimulatorId) : Prop :=
  ∀ device ∈ outside.devices, device.udid ≠ simulatorId

/-- `simctl` never lists a device again that is gone. -/
def NeverReturns (surroundings : Surroundings) : Prop :=
  ∀ before after, surroundings.drift before after → ∀ simulatorId < before.nextDevice,
    Absent before simulatorId → Absent after simulatorId

/-- The name `simctl` lists the simulator under. -/
def nameOf (outside : Outside) (simulatorId : SimulatorId) : Option String :=
  (lastOf outside.devices fun device => device.udid = simulatorId).map (·.name)

/-- No other program renames a simulator, or brings one back. -/
def KeepsNames (surroundings : Surroundings) : Prop :=
  ∀ before after, surroundings.drift before after → ∀ simulatorId < before.nextDevice,
    ∀ name, nameOf after simulatorId = some name → nameOf before simulatorId = some name

/-- A simulator that bears the name of an alias is not bound to another one. -/
def Named (outside : Outside) (config : HostConfig) : Prop :=
  ∀ hostAlias ∈ config.aliases, ∀ name,
    nameOf outside hostAlias.simulatorId = some (simulatorDisplayName config.hostId name) →
      name = hostAlias.aliasName

/-- A reader accepts the config, and no name of a simulator contradicts it. -/
structure Sound (outside : Outside) (config : HostConfig) : Prop where
  valid : config.Valid
  named : Named outside config

/-- The operations a host config depends on. -/
def touchesHost : BrokerOp → Bool
  | .rename (.hostConfig _) | .renameDevice _ _ => true
  | _ => false

theorem append_left_cancel {first left right : String} (hsame : first ++ left = first ++ right) :
    left = right := by
  have hlist := congrArg String.toList hsame
  rw [String.toList_append, String.toList_append] at hlist
  exact String.toList_inj.mp (List.append_cancel_left hlist)

theorem simulatorDisplayName_injective {hostId : String} {left right : AliasName}
    (hsame : simulatorDisplayName hostId left = simulatorDisplayName hostId right) :
    left = right :=
  append_left_cancel hsame

/-! ## Names and effects -/

section Names

variable {outside : Outside} {simulatorId other : SimulatorId}

theorem lastOf_map {records : List Device} {update : Device → Device} {select : Device → Bool}
    (hselect : ∀ device, select (update device) = select device) :
    lastOf (records.map update) select = (lastOf records select).map update := by
  have hcomp : select ∘ update = select := funext hselect
  rw [lastOf, ← List.map_reverse, List.find?_map, hcomp, lastOf]

theorem nameOf_updateDevice (update : Device → Device)
    (hudid : ∀ device, (update device).udid = device.udid) :
    nameOf (outside.updateDevice simulatorId update) other =
      (lastOf outside.devices fun device => device.udid = other).map fun device =>
        (if device.udid = simulatorId then update device else device).name := by
  unfold nameOf Outside.updateDevice
  rw [lastOf_map, Option.map_map]
  · rfl
  · intro device
    split
    · rw [hudid]
    · rfl

theorem nameOf_update (update : Device → Device)
    (hudid : ∀ device, (update device).udid = device.udid)
    (hname : ∀ device, (update device).name = device.name) :
    nameOf (outside.updateDevice simulatorId update) other = nameOf outside other := by
  rw [nameOf_updateDevice update hudid]
  refine congrFun (congrArg Option.map (funext fun device => ?_)) _
  split
  · exact hname device
  · rfl

theorem udid_of_lastOf {records : List Device} {device : Device}
    (hlast : lastOf records (fun device => device.udid = other) = some device) :
    device.udid = other := by
  have hfound := List.find?_some hlast
  exact of_decide_eq_true hfound

theorem nameOf_rename_self {name last : String}
    (hname : nameOf (outside.updateDevice other fun device => { device with name }) other =
      some last) : last = name := by
  rw [nameOf_updateDevice (fun device => { device with name }) fun _ => rfl] at hname
  obtain ⟨device, hdevice, rfl⟩ := Option.map_eq_some_iff.mp hname
  rw [if_pos (udid_of_lastOf hdevice)]

theorem nameOf_rename_other {name last : String} (hne : other ≠ simulatorId)
    (hname : nameOf (outside.updateDevice simulatorId fun device => { device with name }) other =
      some last) : nameOf outside other = some last := by
  rw [nameOf_updateDevice (fun device => { device with name }) fun _ => rfl] at hname
  obtain ⟨device, hdevice, rfl⟩ := Option.map_eq_some_iff.mp hname
  rw [if_neg (by rw [udid_of_lastOf hdevice]; exact hne)]
  exact Option.map_eq_some_iff.mpr ⟨device, hdevice, rfl⟩

theorem nameOf_createDevice {name deviceType runtime : String}
    (hne : other ≠ outside.nextDevice) :
    nameOf (outside.createDevice name deviceType runtime) other = nameOf outside other := by
  simp [nameOf, Outside.createDevice, lastOf, List.find?_append, hne.symm]

theorem absent_iff_nameOf : Absent outside simulatorId ↔ nameOf outside simulatorId = none := by
  simp [Absent, nameOf, lastOf]

/-- A created simulator is listed under the name it was created with. -/
theorem nameOf_created {name deviceType runtime : String} (hdrawn : outside.DevicesDrawn) :
    nameOf (outside.createDevice name deviceType runtime) outside.nextDevice = some name := by
  have hfresh : lastOf outside.devices (fun device => device.udid = outside.nextDevice) = none := by
    have habsent : Absent outside outside.nextDevice :=
      fun device hdevice => Nat.ne_of_lt (hdrawn device hdevice)
    simpa [absent_iff_nameOf, nameOf] using habsent
  unfold lastOf at hfresh
  simp [nameOf, Outside.createDevice, lastOf, List.find?_append, hfresh]

theorem nameOf_deleteDevice {name : String}
    (hname : nameOf (outside.deleteDevice simulatorId) other = some name) :
    nameOf outside other = some name := by
  by_cases hsame : other = simulatorId
  · rw [absent_iff_nameOf.mp] at hname
    · cases hname
    · rw [hsame]
      exact fun device hdevice => of_decide_eq_true (List.mem_filter.mp hdevice).2
  · rw [← hname]
    unfold nameOf Outside.deleteDevice lastOf
    rw [← List.filter_reverse, List.find?_filter]
    refine congrArg (Option.map _) (congrArg (List.find? · _) (funext fun device => ?_))
    by_cases hudid : device.udid = other
    · simp [hudid, hsame]
    · simp [hudid]

end Names

variable {α β ι : Type} {surroundings : Surroundings} {world first middle last after : World}

/-- Only a rename gives a simulator another name. -/
theorem nameOf_effect {op : BrokerOp} {simulatorId : SimulatorId} {name : String}
    (hdrawn : simulatorId < world.outside.nextDevice)
    (hname : nameOf (op.effect world).outside simulatorId = some name) :
    nameOf world.outside simulatorId = some name ∨ op = .renameDevice simulatorId name := by
  cases op with
  | rename file =>
      refine .inl ?_
      cases file <;> exact hname
  | createDevice created deviceType runtime =>
      have hsame : nameOf (world.outside.createDevice created deviceType runtime) simulatorId =
          nameOf world.outside simulatorId := nameOf_createDevice (Nat.ne_of_lt hdrawn)
      exact .inl (hsame.symm.trans hname)
  | renameDevice other renamed =>
      by_cases hsame : simulatorId = other
      · cases hsame
        exact .inr (by rw [nameOf_rename_self hname])
      · exact .inl (nameOf_rename_other hsame hname)
  | shutdownDevice other site =>
      refine .inl (Eq.trans (Eq.symm ?_) hname)
      exact nameOf_update (fun device => { device with booted := false }) (fun _ => rfl) fun _ => rfl
  | bootDevice other =>
      refine .inl (Eq.trans (Eq.symm ?_) hname)
      exact nameOf_update (fun device => { device with booted := true }) (fun _ => rfl) fun _ => rfl
  | deleteDevice other site => exact .inl (nameOf_deleteDevice hname)
  | _ => exact .inl hname

/-! ## What the other operations keep -/

/-- The file is untouched; devices were drawn, those gone stay gone, and only the one renamed has
another name. -/
structure Moved (surroundings : Surroundings) (renamed : Option (SimulatorId × String))
    (before after : World) : Prop where
  hostConfig : after.store.hostConfig = before.store.hostConfig
  later : before.outside.Later after.outside
  gone : NeverReturns surroundings → ∀ simulatorId < before.outside.nextDevice,
    Absent before.outside simulatorId → Absent after.outside simulatorId
  names : KeepsNames surroundings → ∀ simulatorId < before.outside.nextDevice, ∀ name,
    nameOf after.outside simulatorId = some name →
      nameOf before.outside simulatorId = some name ∨ renamed = some (simulatorId, name)

/-- Nothing was renamed. -/
abbrev Onward (surroundings : Surroundings) (before after : World) : Prop :=
  Moved surroundings none before after

variable {renamed : Option (SimulatorId × String)}

theorem Moved.refl (world : World) : Moved surroundings renamed world world :=
  ⟨rfl, .refl _, fun _ _ _ habsent => habsent, fun _ _ _ _ hname => .inl hname⟩

theorem Moved.trans (hfirst : Moved surroundings renamed first middle)
    (hlast : Moved surroundings renamed middle last) : Moved surroundings renamed first last where
  hostConfig := hlast.hostConfig.trans hfirst.hostConfig
  later := hfirst.later.trans hlast.later
  gone hnever simulatorId hdrawn habsent :=
    hlast.gone hnever simulatorId (hdrawn.trans_le hfirst.later.nextDevice)
      (hfirst.gone hnever simulatorId hdrawn habsent)
  names hkeeps simulatorId hdrawn name hname := by
    rcases hlast.names hkeeps simulatorId (hdrawn.trans_le hfirst.later.nextDevice) name hname with
      hname | hrenamed
    · exact hfirst.names hkeeps simulatorId hdrawn name hname
    · exact .inr hrenamed

theorem Moved.of_onward (honward : Onward surroundings first last) :
    Moved surroundings renamed first last :=
  ⟨honward.hostConfig, honward.later, honward.gone, fun hkeeps simulatorId hdrawn name hname =>
    .inl ((honward.names hkeeps simulatorId hdrawn name hname).resolve_right (by simp))⟩

/-- A name that is there now was there before. -/
theorem Moved.nameOf (honward : Onward surroundings first last) (hkeeps : KeepsNames surroundings)
    {simulatorId : SimulatorId} (hdrawn : simulatorId < first.outside.nextDevice) {name : String}
    (hname : nameOf last.outside simulatorId = some name) :
    nameOf first.outside simulatorId = some name :=
  (honward.names hkeeps simulatorId hdrawn name hname).resolve_right (by simp)

theorem moved_settles (hsettles : Settles surroundings first last) :
    Moved surroundings renamed first last where
  hostConfig := by rw [hsettles.store]
  later := surroundings.later hsettles.drift
  gone hnever simulatorId hdrawn habsent := hnever _ _ hsettles.drift simulatorId hdrawn habsent
  names hkeeps simulatorId hdrawn name hname :=
    .inl (hkeeps _ _ hsettles.drift simulatorId hdrawn name hname)

theorem absent_update {outside : Outside} {simulatorId id : SimulatorId} {update : Device → Device}
    (hudid : ∀ device, (update device).udid = device.udid) (habsent : Absent outside id) :
    Absent (outside.updateDevice simulatorId update) id := by
  intro device hdevice
  obtain ⟨old, hold, rfl⟩ := List.mem_map.mp hdevice
  have hsame : (if old.udid = simulatorId then update old else old).udid = old.udid := by
    split <;> simp [hudid]
  rw [hsame]
  exact habsent old hold

theorem absent_effect (op : BrokerOp) {simulatorId : SimulatorId}
    (hdrawn : simulatorId < world.outside.nextDevice) (habsent : Absent world.outside simulatorId) :
    Absent (op.effect world).outside simulatorId := by
  cases op with
  | rename file => cases file <;> exact habsent
  | createDevice name deviceType runtime =>
      intro device hdevice
      rcases List.mem_cons.mp hdevice with rfl | hdevice
      · exact (Nat.ne_of_lt hdrawn).symm
      · exact habsent device hdevice
  | renameDevice other name => exact absent_update (fun _ => rfl) habsent
  | shutdownDevice other site => exact absent_update (fun _ => rfl) habsent
  | bootDevice other => exact absent_update (fun _ => rfl) habsent
  | deleteDevice other site =>
      exact fun device hdevice => habsent device (List.mem_of_mem_filter hdevice)
  | _ => exact habsent

theorem moved_effect {op : BrokerOp} (hfile : ∀ config, op ≠ .rename (.hostConfig config))
    (hrenamed : ∀ simulatorId name, op = .renameDevice simulatorId name →
      renamed = some (simulatorId, name)) :
    Moved surroundings renamed world (op.effect world) := by
  refine ⟨?_, later_effect op world, fun _ _ hdrawn habsent => absent_effect op hdrawn habsent, ?_⟩
  · cases op with
    | rename file =>
        cases file with
        | hostConfig config => exact absurd rfl (hfile config)
        | _ => rfl
    | _ => rfl
  · intro _ simulatorId hdrawn name hname
    exact (nameOf_effect hdrawn hname).imp_right (hrenamed simulatorId name)

theorem onward_effect {op : BrokerOp} (hop : touchesHost op = false) :
    Onward surroundings world (op.effect world) := by
  apply moved_effect
  · rintro config rfl
    cases hop
  · rintro simulatorId name rfl
    cases hop

theorem onward_answers {op : BrokerOp} {answer : Except BrokerError op.Ret}
    (hop : touchesHost op = false) (hanswers : Answers surroundings op world answer after) :
    Onward surroundings world after := by
  cases hanswers with
  | ok _ hsettles => exact (onward_effect hop).trans (moved_settles hsettles)
  | error _ _ hsettles => exact moved_settles hsettles
  | late _ _ _ hsettles => exact (onward_effect hop).trans (moved_settles hsettles)

/-! ## What is on disk -/

/-- No simulator of the config gets the name of another alias. -/
def Allows (config : HostConfig) (renamed : Option (SimulatorId × String)) : Prop :=
  ∀ hostAlias ∈ config.aliases, ∀ name,
    renamed = some (hostAlias.simulatorId, simulatorDisplayName config.hostId name) →
      name = hostAlias.aliasName

theorem Named.moved {config : HostConfig} (hnamed : Named first.outside config)
    (hmoved : Moved surroundings renamed first last) (hkeeps : KeepsNames surroundings)
    (hdrawn : ∀ simulatorId ∈ config.simulatorIds, simulatorId < first.outside.nextDevice)
    (hallows : Allows config renamed) : Named last.outside config := by
  intro hostAlias hmem name hname
  have hid := hdrawn _ (List.mem_map_of_mem hmem)
  rcases hmoved.names hkeeps _ hid _ hname with hbefore | hrenamed
  · exact hnamed hostAlias hmem name hbefore
  · exact hallows hostAlias hmem name hrenamed

/-- Every simulator there is, and every one the file answers for, was drawn; the file is sound if
`distinct` holds. -/
structure Drawn (surroundings : Surroundings) (distinct : Prop) (world : World) : Prop where
  devices : world.outside.DevicesDrawn
  managed : ∀ disk, world.store.hostConfig = some disk → ∀ simulatorId ∈ managedIds disk,
    simulatorId < world.outside.nextDevice
  sound : KeepsNames surroundings → distinct → ∀ disk, world.store.hostConfig = some disk →
    Sound world.outside disk

variable {distinct : Prop}

theorem Drawn.moved (hdrawn : Drawn surroundings distinct world)
    (hmoved : Moved surroundings renamed world after)
    (hallows : KeepsNames surroundings → distinct → ∀ disk, world.store.hostConfig = some disk →
      Allows disk renamed) : Drawn surroundings distinct after where
  devices := hmoved.later.devicesDrawn hdrawn.devices
  managed disk hdisk simulatorId hmem := by
    rw [hmoved.hostConfig] at hdisk
    exact (hdrawn.managed disk hdisk simulatorId hmem).trans_le hmoved.later.nextDevice
  sound hkeeps hdistinct disk hdisk := by
    rw [hmoved.hostConfig] at hdisk
    obtain ⟨hvalid, hnamed⟩ := hdrawn.sound hkeeps hdistinct disk hdisk
    refine ⟨hvalid, hnamed.moved hmoved hkeeps ?_ (hallows hkeeps hdistinct disk hdisk)⟩
    exact fun simulatorId hmem =>
      hdrawn.managed disk hdisk simulatorId (List.mem_append_left _ hmem)

theorem allows_none (config : HostConfig) : Allows config none := by
  rintro hostAlias - name ⟨⟩

theorem Drawn.onward (hdrawn : Drawn surroundings distinct world)
    (honward : Onward surroundings world after) : Drawn surroundings distinct after :=
  hdrawn.moved honward fun _ _ _ _ => allows_none _

/-- The config answers for every simulator the file answers for that is still there. -/
structure Retains (surroundings : Surroundings) (world : World) (config : HostConfig) : Prop where
  drawn : ∀ simulatorId ∈ managedIds config, simulatorId < world.outside.nextDevice
  kept : NeverReturns surroundings → ∀ disk, world.store.hostConfig = some disk →
    ∀ simulatorId ∈ managedIds disk,
      simulatorId ∈ managedIds config ∨ Absent world.outside simulatorId

theorem Retains.moved {config : HostConfig} (hretains : Retains surroundings world config)
    (hdrawn : Drawn surroundings distinct world)
    (hmoved : Moved surroundings renamed world after) : Retains surroundings after config where
  drawn simulatorId hmem :=
    (hretains.drawn simulatorId hmem).trans_le hmoved.later.nextDevice
  kept hnever disk hdisk simulatorId hmem := by
    rw [hmoved.hostConfig] at hdisk
    exact (hretains.kept hnever disk hdisk simulatorId hmem).imp_right
      (hmoved.gone hnever simulatorId (hdrawn.managed disk hdisk simulatorId hmem))

/-- Another config that answers for the same simulators, but for those gone. -/
theorem Retains.next {config other : HostConfig} (hretains : Retains surroundings world config)
    (hdrawn : ∀ simulatorId ∈ managedIds other, simulatorId < world.outside.nextDevice)
    (hkept : NeverReturns surroundings → ∀ simulatorId ∈ managedIds config,
      simulatorId ∈ managedIds other ∨ Absent world.outside simulatorId) :
    Retains surroundings world other where
  drawn := hdrawn
  kept hnever disk hdisk simulatorId hmem := by
    rcases hretains.kept hnever disk hdisk simulatorId hmem with hconfig | habsent
    · exact hkept hnever simulatorId hconfig
    · exact .inr habsent

/-- The config that was read. -/
theorem Retains.read {config : HostConfig} (hdrawn : Drawn surroundings distinct world)
    (hread : ReadConfig world config) : Retains surroundings world config := by
  obtain ⟨disk, hdisk, -, rfl⟩ := hread
  have hmanaged : ∀ simulatorId,
      simulatorId ∈ managedIds { disk with pendingRetirements := disk.pendingRetirements.dedup } ↔
        simulatorId ∈ managedIds disk := by
    intro simulatorId
    simp only [managedIds, List.mem_append, HostConfig.simulatorIds, List.mem_dedup]
  constructor
  · exact fun simulatorId hmem => hdrawn.managed disk hdisk simulatorId ((hmanaged _).mp hmem)
  · intro _ other hother simulatorId hmem
    rw [hdisk] at hother
    cases hother
    exact .inl ((hmanaged _).mpr hmem)

theorem Retains.fresh {config : HostConfig} (hnone : world.store.hostConfig = none)
    (hdrawn : ∀ simulatorId ∈ managedIds config, simulatorId < world.outside.nextDevice) :
    Retains surroundings world config where
  drawn := hdrawn
  kept _ disk hdisk := by
    rw [hnone] at hdisk
    cases hdisk

/-! ## The guard -/

/-- What a command must have established where it replaces the file or renames a simulator; that
the file stays sound only if `distinct` holds. -/
structure Admits (surroundings : Surroundings) (distinct : Prop) (op : BrokerOp) (world : World) :
    Prop where
  file : ∀ config, op = .rename (.hostConfig config) → Retains surroundings world config ∧
    (KeepsNames surroundings → distinct → Sound world.outside config)
  device : ∀ simulatorId name, op = .renameDevice simulatorId name → KeepsNames surroundings →
    distinct → ∀ disk, world.store.hostConfig = some disk → Allows disk (some (simulatorId, name))

theorem admits_of_onward {op : BrokerOp} (hop : touchesHost op = false) :
    Admits surroundings distinct op world := by
  constructor
  · rintro config rfl
    cases hop
  · rintro simulatorId name rfl
    cases hop

/-- The file after the rename that replaces it. -/
theorem Drawn.replaced {config : HostConfig} (hdrawn : Drawn surroundings distinct world)
    (hretains : Retains surroundings world config)
    (hsound : KeepsNames surroundings → distinct → Sound world.outside config) :
    Drawn surroundings distinct (BrokerOp.effect (.rename (.hostConfig config)) world) where
  devices := hdrawn.devices
  managed := by
    rintro disk ⟨⟩
    exact hretains.drawn
  sound hkeeps hdistinct := by
    rintro disk ⟨⟩
    exact hsound hkeeps hdistinct

/-- An admitted operation keeps the file as it should be. -/
theorem Drawn.answers {op : BrokerOp} {answer : Except BrokerError op.Ret}
    (hdrawn : Drawn surroundings distinct world) (hadmits : Admits surroundings distinct op world)
    (hanswers : Answers surroundings op world answer after) :
    Drawn surroundings distinct after := by
  have heffect : Drawn surroundings distinct (op.effect world) := by
    by_cases hfile : ∃ config, op = .rename (.hostConfig config)
    · obtain ⟨config, rfl⟩ := hfile
      obtain ⟨hretains, hsound⟩ := hadmits.file config rfl
      exact hdrawn.replaced hretains hsound
    · have hother : ∀ config, op ≠ .rename (.hostConfig config) :=
        fun config hop => hfile ⟨config, hop⟩
      by_cases hrename : ∃ simulatorId name, op = .renameDevice simulatorId name
      · obtain ⟨simulatorId, name, rfl⟩ := hrename
        have hmoved : Moved surroundings (some (simulatorId, name)) world
            (BrokerOp.effect (.renameDevice simulatorId name) world) :=
          moved_effect hother fun _ _ hop => by cases hop; rfl
        exact hdrawn.moved hmoved (hadmits.device simulatorId name rfl)
      · have hmoved : Onward surroundings world (op.effect world) :=
          moved_effect hother fun simulatorId name hop => absurd ⟨simulatorId, name, hop⟩ hrename
        exact hdrawn.onward hmoved
  cases hanswers with
  | ok _ hsettles => exact heffect.onward (moved_settles hsettles)
  | error _ _ hsettles => exact hdrawn.onward (moved_settles hsettles)
  | late _ _ _ hsettles => exact heffect.onward (moved_settles hsettles)

/-- In every run, each host config written is admitted. -/
def Hosts (surroundings : Surroundings) (distinct : Prop) (body : Broker α)
    (post : α → World → Prop) (raise : BrokerError → World → Prop) (world : World) : Prop :=
  wp (brokerHandler surroundings) (Admits surroundings distinct) body post raise world

variable {post : α → World → Prop} {raise : BrokerError → World → Prop}

theorem Hosts.pure {value : α} (hpost : post value world) :
    Hosts surroundings distinct (Pure.pure value) post raise world :=
  hpost

theorem Hosts.throw {error : BrokerError} (hraise : raise error world) :
    Hosts surroundings distinct (MonadExcept.throw error : Broker α) post raise world :=
  hraise

theorem Hosts.seq {post : β → World → Prop} {body : Broker α} {rest : α → Broker β}
    {between : α → World → Prop} {raise' : BrokerError → World → Prop}
    (hbody : Hosts surroundings distinct body between raise' world)
    (hraise : ∀ error after, raise' error after → raise error after)
    (hrest : ∀ value after, between value after →
      Hosts surroundings distinct (rest value) post raise after) :
    Hosts surroundings distinct (body >>= rest) post raise world :=
  wp.seq hbody hraise hrest

theorem Hosts.weaken {body : Broker α} {post' : α → World → Prop}
    {raise' : BrokerError → World → Prop}
    (hbody : Hosts surroundings distinct body post raise world)
    (hpost : ∀ value after, post value after → post' value after)
    (hraise : ∀ error after, raise error after → raise' error after) :
    Hosts surroundings distinct body post' raise' world :=
  wp.weaken hbody hpost hraise

/-- What follows a value, and what follows an error. -/
theorem Hosts.either {post : β → World → Prop} {body : Broker α}
    {rest : Except BrokerError α → Broker β} {M : α → World → Prop} {E : BrokerError → World → Prop}
    (hbody : Hosts surroundings distinct body M E world)
    (hok : ∀ value after, M value after →
      Hosts surroundings distinct (rest (.ok value)) post raise after)
    (herror : ∀ error after, E error after →
      Hosts surroundings distinct (rest (.error error)) post raise after) :
    Hosts surroundings distinct (body.attempt >>= rest) post raise world :=
  (wp_bind _ rest).mpr ((wp_attempt body).mpr (wp.weaken hbody hok herror))

theorem Hosts.tryCatch {body : Broker α} {handler : BrokerError → Broker α}
    {raise' : BrokerError → World → Prop}
    (hbody : Hosts surroundings distinct body post raise' world)
    (hhandler : ∀ error after, raise' error after →
      Hosts surroundings distinct (handler error) post raise after) :
    Hosts surroundings distinct (MonadExcept.tryCatch body handler) post raise world :=
  (wp_tryCatch body handler).mpr (wp.weaken hbody (fun _ _ h => h) hhandler)

theorem Hosts.ensuring {body : Broker α} {cleanup : Broker Unit}
    (hbody : Hosts surroundings distinct body
      (fun value after => Hosts surroundings distinct cleanup (fun _ => post value) raise after)
      (fun error after => Hosts surroundings distinct cleanup (fun _ => raise error) raise after)
      world) :
    Hosts surroundings distinct (body.ensuring cleanup) post raise world :=
  (wp_ensuring body cleanup).mpr hbody

/-- A program that neither replaces the file nor renames a simulator. -/
theorem Hosts.frame {body : Broker α} (hall : body.All fun op => touchesHost op = false) :
    Hosts surroundings distinct body (fun _ after => Onward surroundings world after)
      (fun _ after => Onward surroundings world after) world :=
  wp_of_all hall (.refl _) (fun _ _ => .trans) (fun _ _ hop _ => admits_of_onward hop)
    fun _ _ _ _ hop => onward_answers hop

/-- The rename of the file; it either has its effect or fails without one. -/
theorem Hosts.rename {config : HostConfig} (hdrawn : Drawn surroundings distinct world)
    (hretains : Retains surroundings world config)
    (hsound : KeepsNames surroundings → distinct → Sound world.outside config) :
    Hosts surroundings distinct (perform (.rename (.hostConfig config)))
      (fun _ after => Drawn surroundings distinct after ∧ Retains surroundings after config ∧
        after.store.hostConfig = some config)
      (fun _ after => Onward surroundings world after) world := by
  refine wp_perform ⟨?_, ?_⟩ ?_ ?_
  · rintro other ⟨⟩
    exact ⟨hretains, hsound⟩
  · rintro simulatorId name ⟨⟩
  · intro value after _ hsettles
    have honward : Onward surroundings _ after := moved_settles hsettles
    have hdisk : after.store.hostConfig = some config := honward.hostConfig
    refine ⟨(hdrawn.replaced hretains hsound).onward honward, ⟨?_, ?_⟩, hdisk⟩
    · exact fun simulatorId hmem =>
        (hretains.drawn simulatorId hmem).trans_le honward.later.nextDevice
    · intro _ disk hother simulatorId hmem
      rw [hdisk] at hother
      cases hother
      exact .inl hmem
  · rintro error after - - (hsettles | ⟨hlate, -⟩)
    · exact moved_settles hsettles
    · cases hlate

/-- The rename of a simulator. -/
theorem Hosts.renameDevice {simulatorId : SimulatorId} {name : String}
    (hallows : KeepsNames surroundings → distinct → ∀ disk, world.store.hostConfig = some disk →
      Allows disk (some (simulatorId, name))) :
    Hosts surroundings distinct (perform (.renameDevice simulatorId name))
      (fun _ after => Moved surroundings (some (simulatorId, name)) world after ∧
        (KeepsNames surroundings → simulatorId < world.outside.nextDevice →
          ∀ last, nameOf after.outside simulatorId = some last → last = name))
      (fun _ after => Moved surroundings (some (simulatorId, name)) world after) world := by
  have heffect : Moved surroundings (some (simulatorId, name)) world
      (BrokerOp.effect (.renameDevice simulatorId name) world) := by
    apply moved_effect
    · rintro config ⟨⟩
    · rintro other renamed ⟨⟩
      rfl
  refine wp_perform ⟨?_, ?_⟩ ?_ ?_
  · rintro config ⟨⟩
  · rintro other renamed ⟨⟩
    exact hallows
  · intro value after _ hsettles
    refine ⟨heffect.trans (moved_settles hsettles), fun hkeeps hid last hlast => ?_⟩
    exact nameOf_rename_self (hkeeps _ _ hsettles.drift simulatorId hid last hlast)
  · rintro error after - - (hsettles | ⟨-, hsettles⟩)
    · exact moved_settles hsettles
    · exact heffect.trans (moved_settles hsettles)

end SimulatorBroker.Hosting
