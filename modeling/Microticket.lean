import Microticket.InvoiceRejection
import Microticket.CodeTokens
import Microticket.OAuthCodes
import Microticket.OAuthConsent
import Microticket.MailSubscription
import Microticket.TicketMarkers
import Microticket.TicketUpdates
import Microticket.ReplyAddresses
import Microticket.TicketPeople
import Microticket.AddressOwners
import Microticket.TicketNumbers
import Microticket.PasskeyLogins
import Microticket.AdminAccounts
import Microticket.AdminRequests
import Microticket.FreshReads
import Microticket.Participants
import Microticket.SubjectTags
import Microticket.ReplyAttachments
import Microticket.PasskeyCap
import Microticket.CodeResends
import Microticket.OwnMail
import Microticket.ProjectTools
import Microticket.HalfRows
import Microticket.Revocation
import Microticket.SubjectLaws
import Microticket.ThreadingIds
import Microticket.Filenames
import Microticket.UploadKeys
import Microticket.ItemDates
import Microticket.SnapshotOrder
import Microticket.PrintedDecimals
import Microticket.MoneyAgreement
import Microticket.ToolArguments
import Microticket.PrintedLines
import Microticket.BackwardPaging
import Microticket.TicketQueue
import Microticket.VerifiedRecipients
import Microticket.OwnAddresses
import Microticket.WrappedText
import Microticket.CivilDays
import Microticket.BatchReads
import Microticket.FlowStore
import Microticket.FlowContracts
import Microticket.FlowOrigins
import Microticket.FlowEndpoints
import Microticket.FlowSecrets
import Microticket.AuthorisedWrites
import Microticket.ReadsConfined
import Microticket.Deliveries
import Microticket.DeliveryConduct
import Microticket.StoredMessages
import Microticket.MailsConfined
