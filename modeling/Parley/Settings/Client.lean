import Parley.Settings.Backoff
import Parley.Settings.Endpoint

/-!
# Client settings

Everything that the connection is tuned by, and which settings are refused.
-/

namespace Parley.Settings

structure Client where
  /-- How many texts wait while there is no connection. -/
  backlogLimit : Nat
  /-- Milliseconds between two looks for a token. -/
  tokenLook : Nat
  /-- Milliseconds between a refusal and its notice. -/
  noticeDelay : Nat
  /-- Seconds of silence after which a connection is given up. -/
  idleSeconds : Nat
  /-- Bytes of the longest text that is delivered. -/
  messageLimit : Nat
  endpoint : Endpoint
  backoff : Backoff
deriving DecidableEq, Repr

namespace Client

def standard : Client where
  backlogLimit := 100
  tokenLook := 1000
  noticeDelay := 1500
  idleSeconds := 75
  messageLimit := 16777216
  endpoint := Endpoint.standard
  backoff := Backoff.standard

/-- The URL that is dialled, or the first reason to refuse the settings. -/
def check (settings : Client) : Except Defect Url.Parts :=
  if settings.backlogLimit = 0 then .error (.invalid "queue_capacity must be > 0")
  else if settings.backoff.baseDelay = 0 then
    .error (.invalid "reconnect.base_delay_ms must be > 0")
  else if settings.backoff.maxDelay < settings.backoff.baseDelay then
    .error (.invalid "reconnect.max_delay_ms must be >= reconnect.base_delay_ms")
  else if settings.tokenLook = 0 then
    .error (.invalid "token_poll_interval_ms must be > 0")
  else if settings.idleSeconds = 0 then .error (.invalid "idle_timeout_secs must be > 0")
  else if settings.messageLimit = 0 then .error (.invalid "max_message_size must be > 0")
  else settings.endpoint.target

def record : Json.Record Client where
  start := standard
  fields := [
    .of "queue_capacity" false (.natural greatestWord) fun backlogLimit settings =>
      { settings with backlogLimit },
    .of "token_poll_interval_ms" false (.natural greatestWord) fun tokenLook settings =>
      { settings with tokenLook },
    .of "auth_reload_delay_ms" false (.natural greatestWord) fun noticeDelay settings =>
      { settings with noticeDelay },
    .of "idle_timeout_secs" false (.natural greatestWord) fun idleSeconds settings =>
      { settings with idleSeconds },
    .of "max_message_size" false (.natural greatestWord) fun messageLimit settings =>
      { settings with messageLimit },
    .of "endpoint" false Endpoint.record.decoder fun endpoint settings =>
      { settings with endpoint },
    .of "reconnect" false Backoff.record.decoder fun backoff settings =>
      { settings with backoff }]

def toJson (settings : Client) : Json :=
  .object [
    ("queue_capacity", .ofNat settings.backlogLimit),
    ("token_poll_interval_ms", .ofNat settings.tokenLook),
    ("auth_reload_delay_ms", .ofNat settings.noticeDelay),
    ("idle_timeout_secs", .ofNat settings.idleSeconds),
    ("max_message_size", .ofNat settings.messageLimit),
    ("endpoint", settings.endpoint.toJson),
    ("reconnect", settings.backoff.toJson)]

/-- The settings that a text gives; everything it leaves out is standard. -/
def parse (text : String) : Except Json.Fault Client :=
  record.decoder.parse text

end Client

end Parley.Settings
