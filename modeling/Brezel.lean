import Brezel.Backend.Credentials
import Brezel.Node.Command
import Brezel.Node.Replay
import Brezel.Node.Token
import Brezel.Nodeledger.File
import Brezel.Service.Declarations
import Brezel.Service.Fence.Routing
import Brezel.Service.GuestMaps
import Brezel.Service.Receipt
import Brezel.Service.Records.Claims
import Brezel.Store.Scoped
import Brezel.Warm.Equivalence
import Brezel.Warm.Pair
