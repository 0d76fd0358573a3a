import CachePurge.Http.Message
import CachePurge.Text.Utf8

/-!
A network that answers by rules, for rehearsing a purge. The first rule that fits a message answers
it, as often as the rule may be used.
-/

namespace CachePurge.Http

structure Rule where
  method : Option String
  url : Option String
  host : Option String
  /-- How often the rule may still be used, if that is bounded. -/
  uses : Option Nat
  reply : Reply
  deriving DecidableEq

structure Network where
  rules : List Rule
  /-- Hosts whose certificates are not valid. -/
  untrusted : List String
  /-- Whether messages get anywhere at all. -/
  reachable : Bool
  deriving DecidableEq

namespace Rule

/-- Whether a part is as the rule wants it, if it does. -/
def wants (part : Option String) (actual : String) : Bool := part.all (· == actual)

def fits (rule : Rule) (message : Message) : Bool :=
  wants rule.method message.method && wants rule.url message.url.toText &&
    wants rule.host (message.url.hostAndPort.getD "") && rule.uses != some 0

def use (rule : Rule) : Rule := { rule with uses := rule.uses.map (· - 1) }

/-- The reply of the first rule that fits, which is used thereby. -/
def answer (message : Message) : List Rule → Option Reply × List Rule
  | [] => (none, [])
  | rule :: rest =>
    if rule.fits message then (some rule.reply, rule.use :: rest)
    else
      let (reply, rest) := answer message rest
      (reply, rule :: rest)

end Rule

namespace Network

/-- The reply where no rule fits. -/
def ready : Reply := .response 200 (utf8 "\x7b\"status\":\"ok\"\x7d")

/-- Whether the certificate of the other end keeps a client from it. -/
def distrusted (network : Network) (message : Message) : Bool :=
  message.url.scheme == "https" && !message.trusting &&
    network.untrusted.contains (message.url.hostAndPort.getD "")

def deliver (network : Network) (message : Message) : Delivery × Network :=
  if !network.reachable || network.distrusted message then (⟨false, 0, .silence⟩, network)
  else
    let (reply, rules) := Rule.answer message network.rules
    (⟨true, 0, reply.getD ready⟩, { network with rules })

end Network
end CachePurge.Http
