import Outreach.Settings.Group

/-!
# The groups of settings

The database, write batching, delivery, language models, limits of queries, previews and the server,
with the usual value of every setting.
-/

namespace Outreach.Settings

open Form

/-- A text. -/
def word (name usual : String) : Setting := ⟨name, textForm, .text usual, false⟩

/-- A text that may be missing. -/
def optionalWord (name : String) (usual : Option String) : Setting :=
  ⟨name, textOrNull, .ofText? usual, false⟩

/-- A whole number of at least a limit. -/
def amount (name : String) (least usual : Int) : Setting :=
  ⟨name, asValue .int (wholeFrom least), .int usual, false⟩

/-- The database. -/
def database : Group where
  name := "database"
  settings := [word "host" "localhost", ⟨"port", wholeForm, .int 5432, false⟩, word "name" "crm_db",
    word "user" "crm_user", word "password" "crm_password", amount "pool_size" 1 20,
    amount "max_overflow" 0 10, optionalWord "url" none]

/-- Write batching. -/
def batching : Group where
  name := "batching"
  settings := [amount "batch_size" 1 100, amount "flush_interval_ms" 0 5000,
    amount "max_queue_size" 1 10000, amount "max_attempts" 1 3, amount "flush_timeout_ms" 1 10000]

/-- The messaging vendor. -/
def delivery : Group where
  name := "delivery"
  settings := [⟨"enabled", asValue .bool truth, .bool true, false⟩,
    word "vendor_url" "http://localhost:5000/api/vendor/send",
    ⟨"timeout_seconds", asValue .float positiveNumber, .float 10.0, false⟩]

/-- Language models. -/
def models : Group where
  name := "llm"
  settings := [word "provider" "deepseek", word "model" "deepseek-chat",
    word "base_url" "https://api.deepseek.com", optionalWord "api_key" none,
    ⟨"temperature", numberForm, .float 0.7, false⟩,
    optionalWord "fallback_provider" (some "ollama"),
    word "fallback_model" "llama3.1", word "fallback_base_url" "http://localhost:11434"]

/-- Limits of queries. -/
def query : Group where
  name := "query"
  settings := [amount "default_limit" 1 100, amount "max_limit" 1 1000, amount "default_offset" 0 0]

/-- Previews. -/
def preview : Group where
  name := "preview"
  settings := [amount "audience_sample_size" 0 5, amount "max_suggestions" 1 3]

/-- The server. -/
def server : Group where
  name := "api"
  settings :=
    [word "host" "0.0.0.0", ⟨"port", asValue .int (wholeBetween 1 65535), .int 8000, false⟩,
      ⟨"cors_origins", listForm textForm, .list [.text "*"], true⟩, word "log_level" "DEBUG",
    optionalWord "log_file" (some "logs/app.log")]

/-- All groups in order. -/
def groups : List Group := [database, batching, delivery, models, query, preview, server]

/-- The address of the database: the one given, unless it is empty, or one made of its parts. -/
def databaseUrl (settings : Fields) : String :=
  let part (name : String) := ((Keyed.get? name settings).getD .null).display
  let url := (Keyed.get? "url" settings).getD .null
  if url.isBlank then
    "postgresql+asyncpg://" ++ part "user" ++ ":" ++ part "password" ++ "@" ++ part "host" ++ ":" ++
      part "port" ++ "/" ++ part "name"
  else url.display

end Outreach.Settings
