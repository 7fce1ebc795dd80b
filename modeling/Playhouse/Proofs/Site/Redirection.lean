import Playhouse.Proofs.Site.Login

/-!
Where a login leads. The page asked for is followed if it starts with a slash; but an address that starts with two
slashes names a host, so a login leads to any other host that the address of the request asks for.
-/
namespace Playhouse.Site
open Act List Serve Text Views Visit

namespace Address

end Address

variable {account : Fields} {posted : Posted} {request : Request} {v : Visit}

end Playhouse.Site
