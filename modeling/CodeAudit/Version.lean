/-!
This module contains the version of the library.
-/

namespace CodeAudit

/--
The version of the library.
-/
def version : String := "0.1.0"

end CodeAudit
