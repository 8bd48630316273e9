import Sokar.Shared.LocalTime
import Sokar.Shared.ServiceHours
import Sokar.FloorPlan.FreshAvailability
import Sokar.FloorPlan.OverlapTests
import Sokar.FloorPlan.NextAvailable
import Sokar.Booking.HeldTables
import Sokar.Booking.NoDoubleBooking
import Sokar.Booking.ConfirmedProposals
import Sokar.Idempotency.OneReservation
import Sokar.WaitingList.Promotions
import Sokar.ReservationPayments.CapturedPayments
import Sokar.Events.OrderRefunds
import Sokar.Events.OrderCancellations
import Sokar.Events.EventPromotions
import Sokar.Loyalty.ReusedKeys
import Sokar.Loyalty.MergedProfiles
import Sokar.Experiences.SettledCheckouts
import Sokar.Notifications.RecordedSuccess
import Sokar.Outbox.Leases
import Sokar.Idempotency.CanonicalPayloads
import Sokar.GiftCards.FailedPayments
import Sokar.GiftCards.SettledCrowdfunding
import Sokar.GiftCards.SpentOnce
import Sokar.Resilience.CircuitBreaker
import Sokar.Usage.ConservedUsage
import Sokar.Usage.ReplayedUsage
import Sokar.Usage.AcceptedAmounts
import Sokar.Usage.SmsSegments
import Sokar.Billing.AgreeingProjections
import Sokar.Billing.EndedSubscriptions
import Sokar.Billing.Convergence
import Sokar.Marketing.CampaignStatus
import Sokar.Customers.VoiceSuggestions
import Sokar.Customers.MetricSnapshots
import Sokar.Customers.VisitCache
import Sokar.Customers.VisitCoherence
import Sokar.Customers.SpelledPhones
import Sokar.Customers.BirthdayWindow
import Sokar.Customers.LivingProfiles
import Sokar.CustomerGroups.RevokedGroups
import Sokar.Reputation.ClosedRequests
import Sokar.OAuth.Revocation
import Sokar.Voice.SpokenTurn
import Sokar.Voice.InterruptedReply
import Sokar.Voice.FinalizedCalls
import Sokar.Voice.KeptDates
import Sokar.Voice.RespelledNames
import Sokar.Voice.Consent
import Sokar.Voice.AlignedTranscripts
import Sokar.Voice.PerceivedSilences
import Sokar.Voice.TokenAlignment
import Sokar.Voice.ExpectedAnswers
import Sokar.Voice.NoInputRecovery
import Sokar.Marketing.ProviderEvents
import Sokar.Marketing.FillTargeting
import Sokar.Voice.Speculation
