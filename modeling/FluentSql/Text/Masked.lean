/-
A secret as it may be shown: one asterisk for each of its characters, which are counted as Unicode scalar values.
-/

namespace FluentSql.Text

def masked (s : String) : String := String.ofList (List.replicate s.length '*')

end FluentSql.Text
