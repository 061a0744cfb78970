import LemonCas.Foundation.Encoding
import LemonCas.Foundation.Repeat
import LemonCas.Foundation.SharedCounter
import LemonCas.Foundation.Base64Url
import LemonCas.Foundation.Delimited
import LemonCas.Ticket.UniqueTicketIdGenerator
import LemonCas.Credential.CustomCredential
import LemonCas.Authentication.CustomAuthenticationHandler
import LemonCas.Authentication.Verdict
import LemonCas.Authentication.Decision
import LemonCas.Authentication.Deployed
import LemonCas.Authentication.Attempts
import LemonCas.Authentication.Password
import LemonCas.Authentication.Identity
import LemonCas.Webflow.Flow
import LemonCas.Webflow.CustomWebflowConfigurer
import LemonCas.Webflow.LoginForm
import LemonCas.Webflow.Initialisations
import LemonCas.Webflow.Submission
import LemonCas.Ticket.TicketFactories
import LemonCas.Ticket.Issuance
import LemonCas.Ticket.Deployment
import LemonCas.Ticket.TicketCatalog
import LemonCas.Authentication.ExecutionPlan
import LemonCas.Authentication.AuthenticationManager
import LemonCas.Foundation.InTurn
import LemonCas.Authentication.TransactionVerdict
import LemonCas.Authentication.Provenance
import LemonCas.Authentication.FirstSuccess
import LemonCas.Authentication.Processors
import LemonCas.Authentication.DeployedTransaction
import LemonCas.Authentication.Logins
import LemonCas.Webflow.AuthenticationFailure
import LemonCas.Webflow.LoginSession
import LemonCas.Foundation.Declarations
import LemonCas.Startup.Configurations
import LemonCas.Logout.LogoutManager
