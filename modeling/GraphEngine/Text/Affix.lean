/-!
Texts without a given beginning or end.
-/
namespace GraphEngine.Affix

/-- What follows the beginning, if the text has it. -/
def after? (beginning text : String) : Option String :=
  if beginning.toList.isPrefixOf text.toList then
    some (String.ofList (text.toList.drop beginning.length))
  else none

/-- What comes before the end, if the text has it. -/
def before? (ending text : String) : Option String :=
  if ending.toList.isSuffixOf text.toList then
    some (String.ofList (text.toList.take (text.length - ending.length)))
  else none

end GraphEngine.Affix
