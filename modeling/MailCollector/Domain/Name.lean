import MailCollector.Domain.Label

/-!
# Names of hosts

A name is a row of labels. However its characters are written, it has one spelling in ASCII, by
which names are compared.
-/

namespace MailCollector.Domain

open MailCollector.Text MailCollector.Unicode

/-- The labels of a name, unless a character or a label of it is unsound. -/
def labels? (name : List Char) : Option (List Label) := do
  let meanings ← name.mapM meaning?
  let labels ← (splitAt '.' (composed meanings.flatten)).mapM Label.read?
  if labels.any (fun l => hasLeftward l.text) && !labels.all (fun l => keepsDirection l.text) then
    none
  else some labels

/-- The spelling of a name in ASCII. -/
def spelling? (name : List Char) : Option (List Char) :=
  (labels? name).map fun labels => ['.'].intercalate (labels.map Label.spelling)

end MailCollector.Domain
