import RepoAudit.Flow.Basic

/-!
What matters in Flask applications: where request data is read, what makes a response, which
functions process every request, and the boundaries of trust.
-/
namespace RepoAudit.Flask

def sources : List Text := [
  "request.form", "request.args", "request.get_json", "request.data", "request.values",
  "request.files", "request.headers", "request.cookies", "request.environ"]

/-- Functions that make a response. -/
def sinks : List Text := [
  "make_response", "jsonify", "render_template", "send_file", "send_from_directory", "Response",
  "redirect", "abort", "stream_with_context"]

/-- Functions that process every request. -/
def processors : List Text := [
  "before_request", "after_request", "before_first_request", "teardown_request",
  "preprocess_request", "process_response"]

def routeDecorators : List Text := ["route", "get", "post", "put", "delete"]

/-- Functions whose result comes from outside. -/
def inputFunctions : List Text := ["input", "request.get_json", "read", "recv"]

def trustBoundaries : List (Text × TrustBoundary) := [
  ("wsgi", ⟨"WSGI Boundary", ["wsgi_app"], ["__call__"], []⟩),
  ("request_processing",
    ⟨"Request Processing", processors, sinks, ["escape", "safe_join", "secure_filename"]⟩),
  ("session",
    ⟨"Session Boundary", ["session"], ["session.save"], ["session.sign", "session.encrypt"]⟩)]

end RepoAudit.Flask
