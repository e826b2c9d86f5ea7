/-!
# Gateway names

A name is one to 255 bytes of ASCII letters, digits and `-_.:`. The colon is part of it because
the key of a discovered gateway has the form `account:region:name`.
-/

namespace GatewayDirectory

/-- The longest name, in bytes. -/
def maxNameBytes : Nat := 255

/-- The characters a name may hold. -/
def isNameChar (c : Char) : Bool :=
  c.isAlphanum || c == '-' || c == '_' || c == '.' || c == ':'

/-- Whether a gateway can be stored and addressed under the name. -/
def isValidName (name : String) : Bool :=
  name != "" && decide (name.utf8ByteSize ≤ maxNameBytes) && name.toList.all isNameChar

/-- A name is valid if it is not empty, fits in 255 bytes and holds only the characters of a name.
-/
theorem isValidName_iff {name : String} : isValidName name = true ↔
    name ≠ "" ∧ name.utf8ByteSize ≤ maxNameBytes ∧ ∀ c ∈ name.toList, isNameChar c = true := by
  simp only [isValidName, Bool.and_eq_true, bne_iff_ne, decide_eq_true_eq, List.all_eq_true,
    and_assoc]

end GatewayDirectory
