import SimulatorBroker.Broker.Loading
import SimulatorBroker.Broker.Static
import SimulatorBroker.Hosting.Writes

/-!
# What leaves the host config alone

A program that changes nothing of the fleet leaves the file and the names alone;
so do the creation and the deletion of a simulator.
-/

namespace SimulatorBroker.Hosting

open SimulatorBroker.Effects
open SimulatorBroker.State
open SimulatorBroker.Broker

/-- No operation of the program replaces the host config or renames a simulator. -/
abbrev Hostless {α : Type} (body : Broker α) : Prop :=
  body.All fun op => touchesHost op = false

variable {α : Type}

theorem hostless_perform {op : BrokerOp} (hop : touchesHost op = false) : Hostless (perform op) :=
  .request hop

theorem hostless_ignoringErrors {body : Broker Unit} (hbody : Hostless body) :
    Hostless (ignoringErrors body) :=
  .tryCatch hbody fun _ => .pure _

theorem hostless_of_static {body : Broker α} (hbody : Static body) : Hostless body := by
  refine hbody.mono fun op hstatic => ?_
  cases op with
  | rename file =>
      cases file with
      | hostConfig config => cases hstatic
      | _ => rfl
  | renameDevice simulatorId name => cases hstatic
  | _ => rfl

/-- A state load, or part of one. -/
theorem hostless_of_loading {body : Broker α} (hbody : Loading body) : Hostless body := by
  refine hbody.mono fun op hloads => ?_
  cases op with
  | rename file =>
      cases file with
      | hostConfig config => cases hloads
      | _ => rfl
  | renameDevice simulatorId name => cases hloads
  | _ => rfl

theorem hostless_of_passive {body : Broker α} (hbody : Passive body) : Hostless body :=
  hostless_of_static (static_of_passive hbody)

end SimulatorBroker.Hosting
