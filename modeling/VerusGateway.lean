import VerusGateway.Domain.Errors
import VerusGateway.Domain.File
import VerusGateway.Storage.Decompressor
import VerusGateway.Storage.Detector
import VerusGateway.Crypto.Decrypt
import VerusGateway.Chain.Manager
import VerusGateway.Chain.Health
import VerusGateway.Cache.Contract
import VerusGateway.Cache.Filesystem.Basic
import VerusGateway.Cache.Filesystem.Counters
import VerusGateway.Cache.Filesystem.Fidelity
import VerusGateway.Cache.Filesystem.Eviction
import VerusGateway.Cache.Redis
import VerusGateway.Cache.Laws
import VerusGateway.Rpc.Client
import VerusGateway.Chain.Config
import VerusGateway.Service.FileService
import VerusGateway.Service.Caching
import VerusGateway.Service.Pipeline
import VerusGateway.Http.RateLimit
import VerusGateway.Http.Middleware
import VerusGateway.Http.Cors
import VerusGateway.Http.Auth
import VerusGateway.Http.FileHandler
import VerusGateway.Http.Server
import VerusGateway.Startup
import VerusGateway.Serve
