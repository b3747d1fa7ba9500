import Autoresponder.Data.Value

/-!
# Database addresses

A configured database address may name a plain driver scheme; the store needs the
asynchronous driver for it. `postgresql` and `postgres` map to `postgresql+asyncpg`, `mysql`
and `mysql+pymysql` to `mysql+aiomysql`, and `sqlite` to `sqlite+aiosqlite`; any other scheme,
or an address without `://`, is kept. A file database needs its connection usable from the
driver's own thread; a server database gets a connection pool.
-/

namespace Autoresponder.Store

/-- Plain schemes and the asynchronous drivers that replace them. -/
def asyncSchemes : List (String × String) :=
  [("postgresql", "postgresql+asyncpg"), ("postgres", "postgresql+asyncpg"),
   ("mysql", "mysql+aiomysql"), ("mysql+pymysql", "mysql+aiomysql"),
   ("sqlite", "sqlite+aiosqlite")]

/-- The address with its scheme replaced by the asynchronous driver's. -/
def asyncUrl (url : String) : String :=
  match url.splitOn "://" with
  | scheme :: rest@(_ :: _) =>
    ((asyncSchemes.lookup scheme).getD scheme) ++ "://" ++ "://".intercalate rest
  | _ => url

/-- The pool settings of a server database. -/
def poolOptions : List (String × Value) :=
  [("pool_size", .int 10), ("max_overflow", .int 20), ("pool_timeout", .int 30),
   ("pool_recycle", .int 1800), ("pool_pre_ping", .bool true)]

/-- The engine options for an address. -/
def engineOptions (debug : Bool) (url : String) : Value :=
  if url.startsWith "sqlite" then
    .dict [("echo", .bool debug), ("connect_args", .dict [("check_same_thread", .bool false)])]
  else .dict ([("echo", .bool debug)] ++ poolOptions)

end Autoresponder.Store
