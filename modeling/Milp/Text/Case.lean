set_option autoImplicit false

/-! # Matching keywords without regard to case

Keywords are ASCII words, so a text is compared with them by its ASCII letters alone: no other
character becomes part of a keyword in lower case, and in upper case only the dotless `ı`, which
becomes `I`. -/

namespace Milp.Text

def lower (s : String) : String := String.ofList (s.toList.map Char.toLower)

/-- Upper case of the letters that can make up a one-letter code. -/
def upper (s : String) : String :=
  String.ofList (s.toList.map fun c => if c = 'ı' then 'I' else c.toUpper)

end Milp.Text
