/-! The memory of a shell for what it is in the midst of: how many bytes there are, and how many everything takes that
others of its kind may lie in. A signal ends a shell that would need more. -/

namespace PreMerge.Host.Memory

/-- How much there is, without what the start of the shell takes. -/
def size : Nat := 0x800000 - 3600

/-- What a compound command takes while it is read. -/
def compound : Nat := 256

/-- What the body of a function takes besides while it is read. -/
def function : Nat := 128

/-- What a script takes while it is read whose output is put in. -/
def substitution : Nat := 384

/-- What a word takes besides that is not the first of its command. -/
def laterWord : Nat := 176

/-- What a parameter with a word takes. -/
def parameter : Nat := 448

/-- What a parameter takes besides that is set to its word, or of which a pattern is taken away. -/
def change : Nat := 112

/-- What an expression takes. -/
def calculation : Nat := 288

/-- What parentheses take in an expression. -/
def parenthesis : Nat := 272

/-- What parentheses take in a condition. -/
def condition : Nat := 256

end PreMerge.Host.Memory
