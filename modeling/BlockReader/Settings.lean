import BlockReader.Failure.Message
set_option autoImplicit false

namespace BlockReader

structure Settings where
  rpcUrl : String
  rpcTimeout : Double
  retries : Int
  backoff : Double
  logLevel : String
  host : String
  port : Int

abbrev Environment := List (String × String)

namespace Settings

def lookUp (environment : Environment) (name standard : String) : String :=
  (environment.lookup name).getD standard

/-- Reads the settings; the first variable that does not hold a number where one is needed is
reported. -/
def load (environment : Environment) : Except Failure Settings := do
  let text := lookUp environment
  let real (name standard : String) : Except Failure Double :=
    (Numeral.readDouble (text name standard)).mapError .number
  let whole (name standard : String) : Except Failure Int :=
    (Numeral.readInt (text name standard)).mapError .number
  let rpcTimeout ← real "RPC_TIMEOUT" "30"
  let retries ← whole "BLOCK_FETCH_RETRIES" "5"
  let backoff ← real "BLOCK_FETCH_BACKOFF" "0.5"
  let port ← whole "SERVER_PORT" "8000"
  pure
    { rpcUrl := text "RPC_URL" "https://api.mainnet-beta.solana.com"
      rpcTimeout := rpcTimeout
      retries := retries
      backoff := backoff
      logLevel := text "LOG_LEVEL" "INFO"
      host := text "SERVER_HOST" "0.0.0.0"
      port := port }

def names : List String :=
  ["RPC_URL", "RPC_TIMEOUT", "BLOCK_FETCH_RETRIES", "BLOCK_FETCH_BACKOFF", "LOG_LEVEL",
    "SERVER_HOST", "SERVER_PORT"]

end Settings

end BlockReader
