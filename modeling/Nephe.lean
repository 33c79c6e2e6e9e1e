import Nephe.Library.GoMap
import Nephe.Library.Runs
import Nephe.Library.Chain
import Nephe.Library.Subperm
import Nephe.Library.Keyed
import Nephe.Library.ForkJoin
import Nephe.SecurityGroup.Types
import Nephe.SecurityGroup.Merge
import Nephe.SecurityGroup.Names
import Nephe.SecurityGroup.Blocks
import Nephe.SecurityGroup.Counts
import Nephe.SecurityGroup.Members
import Nephe.Controller.PendingItemQueue
import Nephe.Controller.PendingItemCalls
import Nephe.Controller.State
import Nephe.Controller.Groups
import Nephe.Controller.Policies
import Nephe.Controller.Sync
import Nephe.Controller.Members
import Nephe.Controller.Responses
import Nephe.Controller.Trackers
import Nephe.Controller.System
import Nephe.Effects.Effect
import Nephe.Effects.Base
import Nephe.Effects.Groups
import Nephe.Effects.Policies
import Nephe.Effects.Sync
import Nephe.Effects.Members
import Nephe.Effects.Retries
import Nephe.Effects.Responses
import Nephe.Effects.Trackers
import Nephe.Effects.Step
import Nephe.Effects.Objects
import Nephe.Effects.Observed
import Nephe.Effects.Flight
import Nephe.Effects.Slots
import Nephe.Safety.Lifecycle
import Nephe.Safety.RetryTags
import Nephe.Safety.Bookmarks
import Nephe.Safety.Orphans
import Nephe.Safety.Rules
import Nephe.Safety.Names
import Nephe.Safety.Passes
import Nephe.Safety.Repairs
import Nephe.Safety.Deferred
import Nephe.Safety.Teardown
import Nephe.Safety.StatusCache
import Nephe.Safety.RetryBudget
import Nephe.Meaning.Rules
import Nephe.Meaning.Translation
import Nephe.Meaning.Drift
import Nephe.Meaning.Quiescence
import Nephe.Membership.Resolution
import Nephe.Membership.Holdings
import Nephe.Membership.Events
import Nephe.Membership.Snapshots
import Nephe.Membership.Stale
import Nephe.Membership.Accumulator
import Nephe.Membership.Recording
import Nephe.Membership.Replays
import Nephe.Membership.Sequences
import Nephe.Membership.Parking
import Nephe.Aws.Isolation
import Nephe.Aws.Creation
import Nephe.Aws.Filters
import Nephe.Azure.Queries
import Nephe.Converter.VMConverter
import Nephe.Converter.Names
import Nephe.Converter.Labels
import Nephe.Accounts.Poller
import Nephe.Accounts.SelectorController
import Nephe.Accounts.SyncChannel
import Nephe.Accounts.Inventory
import Nephe.Accounts.Credentials
import Nephe.Azure.SharedNsg
import Nephe.Azure.RoundTrip
import Nephe.Azure.Peering
import Nephe.Azure.Agreement
import Nephe.Azure.References
import Nephe.Azure.Concurrency
import Nephe.Azure.View
import Nephe.Azure.QueryText
import Nephe.Azure.ShortNames
import Nephe.Azure.ResourceGraph
import Nephe.Selectors.Defaulting
