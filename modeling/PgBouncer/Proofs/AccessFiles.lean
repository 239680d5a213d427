/-
What becomes of the access rules when a file cannot be opened.

`load_config` keeps what was loaded before if a loader returns NULL.  Both loaders return
a fresh object with nothing in it when their file cannot be opened, so the old rules are
replaced by none.  Without the ident file moreover every rule that names a map is
skipped.  That goes unnoticed where nothing was in force that could be missed.
-/
import PgBouncer.Auth.AccessFiles

namespace PgBouncer.Access

/-! ### Lookups that find nothing -/

variable {o : Outside} {r₀ r : Rules} {identFile₀ identFile : IdentFile} {hbaLines₀ : List Line}
  {hbaFile : Option (List Line)}

end PgBouncer.Access
