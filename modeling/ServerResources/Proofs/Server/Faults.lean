import ServerResources.Proofs.Bean.Loading
import ServerResources.Proofs.Query.Run
import ServerResources.Proofs.Server.Change

/-!
# Faults that the service explains

The service explains why it has no properties to show: the connector is unknown, no
administered object fits, or something is wrong with the class of the object.  The last
covers all that may go wrong when a class is loaded from modules, is constructed and has
its properties read, unless the name of the class is relative.  A question about an
object whose class has a relative name is answered with a failure of the service itself.
-/

namespace ServerResources

open Http

namespace Query

variable {introspector : Introspector} {calls : List Introspector.Call} {connector : Connector}
  {interface : String} {implementation archive : Option String} {fault : Fault}

end Query

namespace Server

variable {server : Server} {request : Request} {name : String} {modules : Bean.Modules}

end Server

end ServerResources
