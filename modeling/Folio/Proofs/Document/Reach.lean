import Folio.Proofs.Style.Columns

/-!
# What the settings reach

The title, the wishes for a date and a table of contents and the direction reach the text of a
document and nothing else does. The theme, the direction and the degree of compression reach its
stylesheet, and with them either the sizes that are set by hand or the count of columns.
-/

namespace Folio

open Number

variable {α : Type} [Scalar α] {s t : Settings α}

namespace Settings

/-!
## Settings under which a document is rendered
-/

end Settings

namespace Document

open Settings

variable {setter : Math.Typesetter} {today : Date} {source : List Char}

end Document
end Folio
