import TicketSandbox.Sandbox.AiReviewerRuns
import TicketSandbox.Sandbox.AnswerProjection
import TicketSandbox.Sandbox.AttemptRuns
import TicketSandbox.Sandbox.CheckExclusion
import TicketSandbox.Sandbox.CleanupRounds
import TicketSandbox.Sandbox.CompletionFacts
import TicketSandbox.Sandbox.EnvironmentRuns
import TicketSandbox.Sandbox.FirstAnswers
import TicketSandbox.Sandbox.ReviewRuns
import TicketSandbox.Sandbox.TrainingTaskSync
import TicketSandbox.Achievements.DryRuns
import TicketSandbox.Achievements.NotificationRuns
import TicketSandbox.Achievements.Replays
import TicketSandbox.Achievements.WeeklyTiers
import TicketSandbox.Assessment.Breakdowns
import TicketSandbox.Assessment.ExactScores
import TicketSandbox.Assessment.ExamRuns
import TicketSandbox.Assessment.StartRuns
import TicketSandbox.Runtime.RejectionRuns
import TicketSandbox.Shadow.CircuitRuns
import TicketSandbox.Network.HelperTranscript
import TicketSandbox.Network.JsonExact
import TicketSandbox.Network.RecipeFacts
import TicketSandbox.Firewall.CounterVerifier
import TicketSandbox.Firewall.InstallerRuns
import TicketSandbox.Firewall.ReplyFacts
import TicketSandbox.Frontend.ControllerRuns
import TicketSandbox.Live.ProbeEvidence
import TicketSandbox.Observations.ObservationRuns
import TicketSandbox.Physical.TraceFacts
import TicketSandbox.Terminal.Broker
import TicketSandbox.TraineeDiary.FixedQuality
import TicketSandbox.TraineeDiary.MetricEvents
import TicketSandbox.TraineeDiary.TraineeForms
