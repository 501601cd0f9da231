import WeaveGitops.Go.Strings
import WeaveGitops.Go.Base64
import WeaveGitops.Go.Json
import WeaveGitops.Go.JsonRoundTrip
import WeaveGitops.Http.Request
import WeaveGitops.Http.Response
import WeaveGitops.Http.Query
import WeaveGitops.Auth.Server
import WeaveGitops.Auth.Handlers
import WeaveGitops.Auth.Callback
import WeaveGitops.Auth.NilProvider
import WeaveGitops.Auth.Middleware
import WeaveGitops.Auth.Cookies
import WeaveGitops.Auth.SessionState
import WeaveGitops.Auth.UserInfo
import WeaveGitops.Auth.Browser
import WeaveGitops.Auth.CodeFlow
import WeaveGitops.Profiles.Get
import WeaveGitops.Profiles.Print
