import Quire.Text.Surrogate

/-! The order of texts. At the first character that differs the lesser number comes first, and
a text comes before those that go on from it. -/

namespace Quire.Text

/-- The numbers that the characters of a text are written by. -/
def codes (s : String) : List Nat := s.toList.map codeOf

def comesBefore (a b : String) : Bool := (codes a).lex (codes b) fun m n => decide (m < n)

end Quire.Text
