import Std.Data.TreeMap

/-! # Bindings

The values of variables. Unlike functions, variables of different case are different. -/

namespace Reckoner

/-- Values under the names of variables. -/
abbrev Bindings := Std.TreeMap String Float

end Reckoner
