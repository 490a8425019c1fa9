import Componentry.Settings.Basic

/-!
# The machine of the program

The program counts on room for texts of less than `2 ^ 32` characters.
-/

namespace Componentry.Program

scoped instance machine : Machine := ⟨fun length => length < Nat.pow 2 32⟩

end Componentry.Program
