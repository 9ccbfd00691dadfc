/-
**Label values of a metric.**

Inside the quotes of a label value a quote, a backslash and a line feed are escaped. A value may
come with escapes of its own: a backslash is held back until the next character tells whether it
already escapes something, so an escaped quote or an escaped backslash is written once.
-/

namespace Aggregation.Text

/-- The rest of a label value; `held` says that a backslash has been read and not yet written. -/
def labelTail : Bool → List Char → List Char
  | held, [] => if held then ['\\', '\\'] else []
  | held, c :: rest =>
    if c = '\n' then '\\' :: 'n' :: labelTail held rest
    else if c = '"' then '\\' :: '"' :: labelTail false rest
    else if c = '\\' then
      if held then '\\' :: '\\' :: labelTail false rest else labelTail true rest
    else if held then '\\' :: '\\' :: c :: labelTail false rest
    else c :: labelTail false rest

/-- A label value as it stands between its quotes. -/
def label (value : String) : String := String.ofList (labelTail false value.toList)

end Aggregation.Text
