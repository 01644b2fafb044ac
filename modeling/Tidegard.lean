import Tidegard.Detector.Proofs.Hysteresis
import Tidegard.Ipfix.Proofs.Atomicity
import Tidegard.Detector.Proofs.Magnitude
import Tidegard.Detector.Proofs.Cooldown
import Tidegard.Detector.Proofs.Accounting
import Tidegard.Detector.Proofs.Publication
import Tidegard.Collector.Proofs.Live
import Tidegard.Incident.Proofs.Failures
import Tidegard.Incident.Proofs.Guards
import Tidegard.Incident.Proofs.Mediation
import Tidegard.Mitigation.Proofs.TwoPerson
import Tidegard.IncidentPostgres.Proofs.ActiveRule
import Tidegard.IncidentPostgres.Proofs.Producer
import Tidegard.Incident.Proofs.Growth
import Tidegard.Mitigator.Proofs.KillSwitch
import Tidegard.Collector.Proofs.Reported
import Tidegard.Detector.Proofs.Ownership
import Tidegard.Detector.Proofs.PrefixScope
import Tidegard.Ipfix.Proofs.Withdrawals
import Tidegard.Collector.Proofs.Normalized
import Tidegard.Aggregator.Proofs.Eviction
import Tidegard.Incident.Proofs.Announcements
import Tidegard.Incident.Proofs.Deduplication
import Tidegard.Incident.Proofs.Supersession
import Tidegard.Mitigation.Proofs.Allowlist
import Tidegard.Mitigator.Proofs.Places
import Tidegard.Storage.Proofs.Oldest
import Tidegard.Incident.Proofs.Instants
import Tidegard.Api.Proofs.Points
import Tidegard.Notification.Proofs.Vetting
import Tidegard.Common.Proofs.Endpoints
import Tidegard.Detector.Proofs.Documents
