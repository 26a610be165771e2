import Strero.AuthUtils
import Strero.Http.Router
import Strero.Lib.Scanf

/-!
# The HTTP server thread

One connection of `http_module_server_thread`: the request is read, with the rest
of its body if it announces one, then checked and dispatched. The value `none`
stands for the overflow that the decoding of credentials can run into.
-/

namespace Http

open CString Scanf AuthUtils

variable {H : Type}

/-! ### Reading a request -/

/-- The room for a request, `sizeof(request) - 1`. -/
def requestRoom : ℕ := 8191

/-- The loop that reads the rest of a body, by what the calls of `recv` return: no bytes
once the connection is closed or has failed. -/
def readBody (contentLength : ℤ) (headersLen : ℕ) (request : List UInt8) :
    List (List UInt8) → List UInt8
  | [] => request
  | chunk :: chunks =>
    if (request.length : ℤ) - headersLen < contentLength ∧ request.length < requestRoom then
      let received := chunk.take (requestRoom - request.length)
      if received = [] then request
      else readBody contentLength headersLen (request ++ received) chunks
    else request

/-- The bytes read for a request. -/
def readRequest : List (List UInt8) → List UInt8
  | [] => []
  | first :: chunks =>
    let request := first.take requestRoom
    if request = [] then []
    else match strstr (cString request) (ascii "Content-Length: ") with
      | none => request
      | some header =>
        match strstr (cString request) (ascii "\r\n\r\n") with
        | none => request
        | some headersEnd =>
          readBody (atoi (header.drop 16)) ((cString request).length - headersEnd.length + 4)
            request chunks

/-! ### Responses -/

/-- A response with its status, the lines after the status line, and its body. -/
structure Response where
  statusCode : ℕ
  statusText : String
  headers : List UInt8
  body : List UInt8
deriving DecidableEq

/-- What the thread does with a connection. -/
inductive Reply (H : Type)
  | closed
  | response (response : Response)
  | handled (route : Route H)
deriving DecidableEq

/-- `http_get_status_text`. -/
def httpGetStatusText : ℕ → String
  | 200 => "OK"
  | 201 => "Created"
  | 204 => "No Content"
  | 400 => "Bad Request"
  | 401 => "Unauthorized"
  | 403 => "Forbidden"
  | 404 => "Not Found"
  | 405 => "Method Not Allowed"
  | 500 => "Internal Server Error"
  | 501 => "Not Implemented"
  | 503 => "Service Unavailable"
  | _ => "Unknown"

/-- `http_send_response`. -/
def httpSendResponse (statusCode : ℕ) (contentType body : String) : Response where
  statusCode := statusCode
  statusText := httpGetStatusText statusCode
  headers := ascii "Content-Type: " ++ ascii contentType ++ ascii "\r\nContent-Length: " ++
    printInt (ascii body).length ++ ascii "\r\nConnection: close\r\nCache-Control: no-cache\r\n"
  body := ascii body

/-- `http_send_error`. -/
def httpSendError (statusCode : ℕ) (message : String) : Response :=
  httpSendResponse statusCode "text/plain" message

/-- The page for missing credentials. -/
def unauthorizedPage : String :=
  "<!DOCTYPE html>" ++
  "<html><head><title>401 Unauthorized</title></head><body>" ++
  "<h1>401 - Unauthorized</h1>" ++
  "<p>Authentication required.</p>" ++
  "</body></html>"

/-- The response to missing credentials, which has headers of its own. -/
def unauthorizedResponse : Response where
  statusCode := 401
  statusText := "Unauthorized"
  headers := ascii "WWW-Authenticate: Basic realm=\"Thingino Streamer\"\r\n" ++
    ascii "Content-Type: text/html\r\nContent-Length: " ++
    printInt (ascii unauthorizedPage).length ++ ascii "\r\nConnection: close\r\n"
  body := ascii unauthorizedPage

/-- The response to wrong credentials. -/
def forbiddenResponse : Response :=
  httpSendResponse 403 "text/html" ("<!DOCTYPE html>" ++
    "<html><head><title>403 Forbidden</title></head><body>" ++
    "<h1>403 - Forbidden</h1>" ++
    "<p>Invalid credentials.</p>" ++
    "</body></html>")

/-- The response for a path without a route. -/
def notFoundResponse : Response :=
  httpSendResponse 404 "text/html" ("<!DOCTYPE html>" ++
    "<html><head><title>404 Not Found</title></head><body>" ++
    "<h1>404 - Not Found</h1>" ++
    "<p>The requested path was not found.</p>" ++
    "<p><a href=\"/\">View API documentation</a></p>" ++
    "</body></html>")

/-! ### Connections -/

/-- The state of the module, as far as the thread reads it, and the address of the table of
base64 characters. -/
structure Server (H : Type) where
  auth : AuthConfig
  router : Router H
  tableAddress : UInt32

/-- The decision on a request that has passed. -/
def Server.routeRequest (server : Server H) (request : List UInt8) : Reply H :=
  match server.router.httpRouterDispatch request with
  | some route => .handled route
  | none => .response notFoundResponse

/-- The decision on a request by a client that is known. -/
def Server.handleRequest (server : Server H) (client : ClientInfo) (request : List UInt8) :
    Option (Reply H) :=
  let isOnvifRequest := contains request (ascii "/onvif/")
  let authResult :=
    if !isOnvifRequest then authCheckHttpRequest server.tableAddress request server.auth client
    else some .success
  authResult.map fun
    | .required => .response unauthorizedResponse
    | .invalid => .response forbiddenResponse
    | .success => server.routeRequest request
    | .error => .response (httpSendError 500 "Authentication system error")

/-- The body of the loop of `http_module_server_thread` for a connection, by the address
of its peer and what the calls of `recv` return. -/
def Server.handleConnection (server : Server H) (peer : Option UInt32)
    (chunks : List (List UInt8)) : Option (Reply H) :=
  let request := readRequest chunks
  if request = [] then some .closed
  else match authGetClientInfo peer with
    | none => some .closed
    | some client => server.handleRequest client (cString request)

end Http
