import Weave.Text.Basic

/-!
The order of texts by their bytes. Since UTF-8 keeps the order of code points, comparing
characters one by one gives it.
-/

namespace Weave.Text

/-- Whether `s` comes before `t`, or is `t`. -/
def precedes : (s t : Text) → Bool
  | [], _ => true
  | _ :: _, [] => false
  | c :: s, d :: t => c < d || (c == d && precedes s t)

end Weave.Text
