import DeclarationFetch.Package
import DeclarationFetch.Resolution.Walk
import DeclarationFetch.Text.ContentType
import DeclarationFetch.Url.Reference

/-!
# Registry clients

Package files over HTTP.

* A client of the registry's own is made at the first fetch and follows redirects, twenty of them at
  most. A client that was handed in is shared, does not follow redirects and is never closed here.
* A file that the server does not know is absent, and any other error status is a failure.
-/

namespace DeclarationFetch.Registry

structure Response where
  status : Nat := 200
  body : List UInt8 := []
  contentType : Option String := none
  location : Option String := none
  deriving Repr, DecidableEq

namespace Response

/-- The text of the body, in the character set of its content type. -/
def text (r : Response) : Except Text.Unreadable String :=
  if r.body.isEmpty then .ok "" else do (← Text.ContentType.charset r.contentType).decode r.body

def isError (r : Response) : Bool := 400 ≤ r.status && r.status ≤ 599

def isSound (r : Response) : Bool :=
  [r.contentType, r.location].all fun header =>
    (header.getD "").toList.all fun c => c.toNat < 0x80

def redirects : List Nat := [301, 302, 303, 307, 308]

def redirect? (r : Response) : Option String := if r.status ∈ redirects then r.location else none

end Response

inductive Failure where
  | transport (message : String)
  /-- The address is no URL, or the client is sent on to none. -/
  | address (fault : Url.Fault)
  | unschemed
  | header
  /-- A failure that is not one of the exchange. -/
  | foreign (name : String)
  deriving Repr, DecidableEq

abbrev Reply := Except Failure Response

/-- The servers as a client finds them, and what was asked of them. -/
structure Web where
  /-- By the text of a URL what it gives. -/
  replies : Assoc Reply := {}
  /-- What any other URL gives: it is not found, unless there are no servers at all. -/
  elsewhere : Reply := .ok { status := 404 }
  /-- The URLs asked for, the latest first. -/
  requested : List String := []
  /-- For each client made so far whether it is closed. -/
  closed : List Bool := []

namespace Web

def reply (w : Web) (u : Url) : Reply := do
  let response ← (w.replies.get? u.text).getD w.elsewhere
  if !response.isSound then .error .header
  else if u.scheme = [] then .error .unschemed
  else .ok response

def ask (w : Web) (u : Url) : Reply × Web :=
  (w.reply u, { w with requested := u.text :: w.requested })

def next (u : Url) (response : Response) : Except Failure (Option Url) :=
  match response.redirect? with
  | none => .ok none
  | some location =>
      match u.redirect location with
      | .ok target => .ok (some target)
      | .error (.unreadable fault) =>
          .error (.transport s!"Invalid URL in location header: {fault.message}.")
      | .error (.misfit fault) => .error (.address fault)

def tooManyRedirects : Failure := .transport "Exceeded maximum allowed redirects."

def follow : Nat → Url → Web → Reply × Web
  | left, u, w =>
      match w.ask u with
      | (.error failure, w) => (.error failure, w)
      | (.ok response, w) =>
          match next u response, left with
          | .error failure, _ => (.error failure, w)
          | .ok none, _ => (.ok response, w)
          | .ok (some _), 0 => (.error tooManyRedirects, w)
          | .ok (some target), left + 1 => follow left target w

/-- The answer itself, which has to say well where it sends the client on to. -/
def exchange (u : Url) (w : Web) : Reply × Web :=
  match w.ask u with
  | (.error failure, w) => (.error failure, w)
  | (.ok response, w) => ((next u response).map fun _ => response, w)

def makeClient (w : Web) : Nat × Web := (w.closed.length, { w with closed := w.closed ++ [false] })

def closeClient (w : Web) (id : Nat) : Web := { w with closed := w.closed.set id true }

end Web

def mostRedirects : Nat := 20

structure Client where
  root : String
  client : Option Nat := none
  shared : Bool := false
  deriving Repr, DecidableEq

namespace Client

def own (root : String) : Client := { root := trimRoot root }

def sharing (root : String) (id : Nat) : Client :=
  { root := trimRoot root, client := some id, shared := true }

def address (c : Client) (r : Resolution.Request) : String :=
  Registry.address c.root r.package (if r.version.isSet then some r.version.display else none) r.path

/-- A client is made when there is none. -/
def ready (c : Client) (w : Web) : Client × Web :=
  match c.client with
  | some _ => (c, w)
  | none =>
      let (id, w) := w.makeClient
      ({ c with client := some id }, w)

def read (address : String) : Reply → Resolution.Answer
  | .error (.transport message) => .error (.fetch (.unreachable address message))
  | .error (.address fault) => .error (.address fault)
  | .error .unschemed => .error .unschemed
  | .error .header => .error .header
  | .error (.foreign name) => .error (.foreign name)
  | .ok response =>
      if response.status = 404 then .ok none
      else if response.isError then .error (.fetch (.badStatus address response.status))
      else match response.text with
        | .ok text => .ok (some text)
        | .error reason => .error (.unreadable reason)

def get (c : Client) (address : String) (w : Web) : Reply × Web :=
  match Url.request address with
  | .error fault => (.error (.address fault), w)
  | .ok u => if c.shared then w.exchange u else w.follow mostRedirects u

def fetch (c : Client) (r : Resolution.Request) (w : Web) : Resolution.Answer × Client × Web :=
  let (c, w) := c.ready w
  let (reply, w) := c.get (c.address r) w
  (read (c.address r) reply, c, w)

/-- Closes the client, unless it is shared. -/
def close (c : Client) (w : Web) : Client × Web :=
  match c.client, c.shared with
  | some id, false => ({ c with client := none }, w.closeClient id)
  | _, _ => (c, w)

end Client

end DeclarationFetch.Registry
