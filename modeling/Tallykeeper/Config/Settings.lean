import Tallykeeper.Numeral.Integer

/-!
# Settings

The settings of the service, grouped in sections, with their defaults. Every setting has
a name in the configuration file (a key of its section), a name in the environment
(`NAMED_`, the section's words, the setting's words, upper case and joined by `_`), a
field name, and a type: text, a 64-bit integer (`int` or `int64`), an unsigned 64-bit
integer, a flag, or a duration in nanoseconds.
-/

namespace Tallykeeper
namespace Config

/-- How a setting is typed, by the name its type goes by in messages. -/
inductive Kind
  | text
  | int
  | int64
  | uint64
  | flag
  | duration
  deriving DecidableEq, Repr

/-- The name of a kind in messages. -/
def Kind.typeName : Kind → String
  | .text => "string"
  | .int => "int"
  | .int64 => "int64"
  | .uint64 => "uint64"
  | .flag => "bool"
  | .duration => "time.Duration"

/-- A value of a setting. Integers of every kind, durations included, are kept as
integers in their kind's range. -/
inductive Value
  | text (s : String)
  | int (v : Int)
  | flag (b : Bool)
  deriving DecidableEq, Repr

/-- The sections of the settings. -/
inductive Section
  | cache
  | rateLimit
  | redis
  | store
  | stream
  | writer
  deriving DecidableEq, Repr

namespace Section

/-- The key of a section in the configuration file. -/
def fileKey : Section → String
  | .cache => "cache"
  | .rateLimit => "rate_limit"
  | .redis => "redis"
  | .store => "store"
  | .stream => "stream"
  | .writer => "writer"

/-- The words of a section in environment names. -/
def envWords : Section → String
  | .cache => "CACHE"
  | .rateLimit => "RATE_LIMIT"
  | .redis => "REDIS"
  | .store => "STORE"
  | .stream => "STREAM"
  | .writer => "WRITER"

/-- The type name of a section in messages. -/
def typeName : Section → String
  | .cache => "main.CacheConfig"
  | .rateLimit => "main.RateLimitConfig"
  | .redis => "main.RedisConfig"
  | .store => "main.StoreConfig"
  | .stream => "main.StreamConfig"
  | .writer => "main.WriterConfig"

/-- The sections in the order they are declared. -/
def all : List Section := [.cache, .rateLimit, .redis, .store, .stream, .writer]

end Section

/-- The settings. -/
inductive Key
  | listenAddr
  | telemetryAddr
  | catalogCapacity
  | catalogTtl
  | catalogWarm
  | valueCapacity
  | valueTtl
  | rateLimit
  | rateWindow
  | redisAddr
  | redisCodec
  | redisDb
  | redisPassword
  | storeKind
  | postgresUrl
  | sqlitePath
  | streamBlock
  | streamCodec
  | streamConsumer
  | streamCount
  | streamGroup
  | streamKey
  | streamSource
  | writerEnabled
  | initialInterval
  | maxInterval
  | readRetries
  | setupRetries
  deriving DecidableEq, Repr

namespace Key

/-- The section of a setting; none for the two at the top. -/
def section? : Key → Option Section
  | .listenAddr | .telemetryAddr => none
  | .catalogCapacity | .catalogTtl | .catalogWarm | .valueCapacity | .valueTtl => some .cache
  | .rateLimit | .rateWindow => some .rateLimit
  | .redisAddr | .redisCodec | .redisDb | .redisPassword => some .redis
  | .storeKind | .postgresUrl | .sqlitePath => some .store
  | .streamBlock | .streamCodec | .streamConsumer | .streamCount | .streamGroup | .streamKey
  | .streamSource => some .stream
  | .writerEnabled | .initialInterval | .maxInterval | .readRetries | .setupRetries =>
    some .writer

/-- The key of a setting in its section of the configuration file. -/
def fileKey : Key → String
  | .listenAddr => "listen_addr"
  | .telemetryAddr => "telemetry_addr"
  | .catalogCapacity => "catalog_capacity"
  | .catalogTtl => "catalog_ttl"
  | .catalogWarm => "catalog_warm"
  | .valueCapacity => "value_capacity"
  | .valueTtl => "value_ttl"
  | .rateLimit => "limit"
  | .rateWindow => "window"
  | .redisAddr => "addr"
  | .redisCodec => "codec"
  | .redisDb => "db"
  | .redisPassword => "password"
  | .storeKind => "kind"
  | .postgresUrl => "postgres_url"
  | .sqlitePath => "sqlite_path"
  | .streamBlock => "block"
  | .streamCodec => "codec"
  | .streamConsumer => "consumer"
  | .streamCount => "count"
  | .streamGroup => "group"
  | .streamKey => "key"
  | .streamSource => "source"
  | .writerEnabled => "enabled"
  | .initialInterval => "initial_interval"
  | .maxInterval => "max_interval"
  | .readRetries => "read_retries"
  | .setupRetries => "setup_retries"

/-- The field name of a setting. -/
def fieldName : Key → String
  | .listenAddr => "ListenAddr"
  | .telemetryAddr => "TelemetryAddr"
  | .catalogCapacity => "CatalogCapacity"
  | .catalogTtl => "CatalogTTL"
  | .catalogWarm => "CatalogWarm"
  | .valueCapacity => "ValueCapacity"
  | .valueTtl => "ValueTTL"
  | .rateLimit => "Limit"
  | .rateWindow => "Window"
  | .redisAddr => "Addr"
  | .redisCodec => "Codec"
  | .redisDb => "DB"
  | .redisPassword => "Password"
  | .storeKind => "Kind"
  | .postgresUrl => "PostgresURL"
  | .sqlitePath => "SQLitePath"
  | .streamBlock => "Block"
  | .streamCodec => "Codec"
  | .streamConsumer => "Consumer"
  | .streamCount => "Count"
  | .streamGroup => "Group"
  | .streamKey => "Key"
  | .streamSource => "Source"
  | .writerEnabled => "Enabled"
  | .initialInterval => "InitialInterval"
  | .maxInterval => "MaxInterval"
  | .readRetries => "ReadRetries"
  | .setupRetries => "SetupRetries"

/-- The words of a setting in environment names. -/
def envWords : Key → String
  | .listenAddr => "LISTEN_ADDR"
  | .telemetryAddr => "TELEMETRY_ADDR"
  | .catalogCapacity => "CATALOG_CAPACITY"
  | .catalogTtl => "CATALOG_TTL"
  | .catalogWarm => "CATALOG_WARM"
  | .valueCapacity => "VALUE_CAPACITY"
  | .valueTtl => "VALUE_TTL"
  | .rateLimit => "LIMIT"
  | .rateWindow => "WINDOW"
  | .redisAddr => "ADDR"
  | .redisCodec => "CODEC"
  | .redisDb => "DB"
  | .redisPassword => "PASSWORD"
  | .storeKind => "KIND"
  | .postgresUrl => "POSTGRES_URL"
  | .sqlitePath => "SQLITE_PATH"
  | .streamBlock => "BLOCK"
  | .streamCodec => "CODEC"
  | .streamConsumer => "CONSUMER"
  | .streamCount => "COUNT"
  | .streamGroup => "GROUP"
  | .streamKey => "KEY"
  | .streamSource => "SOURCE"
  | .writerEnabled => "ENABLED"
  | .initialInterval => "INITIAL_INTERVAL"
  | .maxInterval => "MAX_INTERVAL"
  | .readRetries => "READ_RETRIES"
  | .setupRetries => "SETUP_RETRIES"

/-- The environment name of a setting. -/
def envName (k : Key) : String :=
  match k.section? with
  | some s => "NAMED_" ++ s.envWords ++ "_" ++ k.envWords
  | none => "NAMED_" ++ k.envWords

/-- A second environment name a setting is also read from, without the prefix. -/
def envAlias : Key → Option String
  | .sqlitePath => some "SQLITE_PATH"
  | _ => none

/-- The type of a setting. -/
def kind : Key → Kind
  | .listenAddr | .telemetryAddr | .redisAddr | .redisCodec | .redisPassword | .storeKind
  | .postgresUrl | .sqlitePath | .streamCodec | .streamConsumer | .streamGroup | .streamKey
  | .streamSource => .text
  | .catalogCapacity | .valueCapacity | .redisDb => .int
  | .rateLimit | .streamCount => .int64
  | .readRetries | .setupRetries => .uint64
  | .catalogWarm | .writerEnabled => .flag
  | .catalogTtl | .valueTtl | .rateWindow | .streamBlock | .initialInterval | .maxInterval =>
    .duration

/-- Every setting, in the order they are declared. -/
def all : List Key :=
  [.listenAddr, .telemetryAddr, .catalogCapacity, .catalogTtl, .catalogWarm, .valueCapacity,
   .valueTtl, .rateLimit, .rateWindow, .redisAddr, .redisCodec, .redisDb, .redisPassword,
   .storeKind, .postgresUrl, .sqlitePath, .streamBlock, .streamCodec, .streamConsumer,
   .streamCount, .streamGroup, .streamKey, .streamSource, .writerEnabled, .initialInterval,
   .maxInterval, .readRetries, .setupRetries]

end Key

/-- The settings of the local caches. -/
structure CacheSettings where
  catalogCapacity : Int := 100000
  catalogTtl : Int := 14400000000000
  catalogWarm : Bool := false
  valueCapacity : Int := 100000
  valueTtl : Int := 3600000000000
  deriving DecidableEq, Repr

/-- The request quota. -/
structure RateSettings where
  limit : Int := 0
  window : Int := 60000000000
  deriving DecidableEq, Repr

/-- The Redis server. -/
structure RedisSettings where
  addr : String := ":6379"
  codec : String := "decimal"
  db : Int := 0
  password : String := ""
  deriving DecidableEq, Repr

/-- The durable store. -/
structure StoreSettings where
  kind : String := "postgres"
  postgresUrl : String := ""
  sqlitePath : String := ":memory:"
  deriving DecidableEq, Repr

/-- The change stream. -/
structure StreamSettings where
  block : Int := 2000000000
  codec : String := "fields"
  consumer : String := ""
  count : Int := 100
  group : String := "durable"
  key : String := "counter_updates"
  source : String := "redis"
  deriving DecidableEq, Repr

/-- The durable writer. -/
structure WriterSettings where
  enabled : Bool := true
  initialInterval : Int := 100000000
  maxInterval : Int := 5000000000
  readRetries : Int := 3
  setupRetries : Int := 5
  deriving DecidableEq, Repr

/-- All settings. -/
structure Settings where
  listenAddr : String := ":8083"
  telemetryAddr : String := ":9000"
  cache : CacheSettings := {}
  rateLimit : RateSettings := {}
  redis : RedisSettings := {}
  store : StoreSettings := {}
  stream : StreamSettings := {}
  writer : WriterSettings := {}
  deriving DecidableEq, Repr

/-- The text of a value, or the empty text. -/
def Value.asText : Value → String
  | .text s => s
  | _ => ""

/-- The integer of a value, or zero. -/
def Value.asInt : Value → Int
  | .int v => v
  | _ => 0

/-- The truth of a value, or false. -/
def Value.asFlag : Value → Bool
  | .flag b => b
  | _ => false

namespace Settings

/-- Sets one setting. -/
def set (s : Settings) (k : Key) (v : Value) : Settings :=
  match k with
  | .listenAddr => { s with listenAddr := v.asText }
  | .telemetryAddr => { s with telemetryAddr := v.asText }
  | .catalogCapacity => { s with cache.catalogCapacity := v.asInt }
  | .catalogTtl => { s with cache.catalogTtl := v.asInt }
  | .catalogWarm => { s with cache.catalogWarm := v.asFlag }
  | .valueCapacity => { s with cache.valueCapacity := v.asInt }
  | .valueTtl => { s with cache.valueTtl := v.asInt }
  | .rateLimit => { s with rateLimit.limit := v.asInt }
  | .rateWindow => { s with rateLimit.window := v.asInt }
  | .redisAddr => { s with redis.addr := v.asText }
  | .redisCodec => { s with redis.codec := v.asText }
  | .redisDb => { s with redis.db := v.asInt }
  | .redisPassword => { s with redis.password := v.asText }
  | .storeKind => { s with store.kind := v.asText }
  | .postgresUrl => { s with store.postgresUrl := v.asText }
  | .sqlitePath => { s with store.sqlitePath := v.asText }
  | .streamBlock => { s with stream.block := v.asInt }
  | .streamCodec => { s with stream.codec := v.asText }
  | .streamConsumer => { s with stream.consumer := v.asText }
  | .streamCount => { s with stream.count := v.asInt }
  | .streamGroup => { s with stream.group := v.asText }
  | .streamKey => { s with stream.key := v.asText }
  | .streamSource => { s with stream.source := v.asText }
  | .writerEnabled => { s with writer.enabled := v.asFlag }
  | .initialInterval => { s with writer.initialInterval := v.asInt }
  | .maxInterval => { s with writer.maxInterval := v.asInt }
  | .readRetries => { s with writer.readRetries := v.asInt }
  | .setupRetries => { s with writer.setupRetries := v.asInt }

end Settings

end Config
end Tallykeeper
